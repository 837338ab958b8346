import ReceiptRules.Value
import ReceiptRules.Binary64.Shortest
import ReceiptRules.Text.Quoted
import ReceiptRules.Text.Digit

/-!
# Text of a value

The text of a value that stands alone, and the text of a value inside a list or an object, where
texts are quoted and dates and decimals name their kind. A value that holds a whole number of too
many digits has no text.
-/

namespace ReceiptRules.Value

open Text

def intText (n : Int) : String :=
  String.ofList (Decimal.signText (n < 0) ++ Digit.text n.natAbs)

def truth (b : Bool) : String := if b then "True" else "False"

def dateNumbers (d : Date) : List Nat := [d.year, d.month, d.day]

/-- Time of day without trailing zero seconds and microseconds. -/
def timeNumbers (t : Timestamp) : List Nat :=
  [t.hour.val, t.minute.val] ++
    if t.microsecond.val != 0 then [t.second.val, t.microsecond.val]
    else if t.second.val != 0 then [t.second.val] else []

def commaSeparated (parts : List String) : String := ", ".intercalate parts

def numbersText (ns : List Nat) : String :=
  commaSeparated (ns.map fun n ↦ String.ofList (Digit.text n))

/-- An offset as a length of time: whole days, which are negative before universal time, and
seconds. -/
def offsetLength (offset : UtcOffset) : String :=
  let seconds := s!"seconds={intText (Int.fmod (60 * offset.minutes) 86400)}"
  if offset.minutes < 0 then s!"datetime.timedelta(days=-1, {seconds})"
  else s!"datetime.timedelta({seconds})"

def offsetShown (offset : UtcOffset) : String :=
  if offset.minutes = 0 then "datetime.timezone.utc"
  else s!"datetime.timezone({offsetLength offset})"

def timestampShown (t : Timestamp) : String :=
  let zone := match t.offset with
    | none => ""
    | some offset => s!", tzinfo={offsetShown offset}"
  s!"datetime.datetime({numbersText (dateNumbers t.date ++ timeNumbers t)}{zone})"

mutual

/-- The text of a value inside another one. -/
def shown : Value → String
  | null => "None"
  | bool b => truth b
  | int n => intText n
  | float x => x.text
  | decimal d => s!"Decimal('{d.exact}')"
  | text s => Quoted.quote s
  | receiptType name => s!"<ReceiptType.{name}: {Quoted.quote name}>"
  | date d => s!"datetime.date({numbersText (dateNumbers d)})"
  | timestamp t => timestampShown t
  | list items => s!"[{commaSeparated (shownItems items)}]"
  | object entries => "\x7b" ++ commaSeparated (shownEntries entries) ++ "\x7d"

def shownItems : List Value → List String
  | [] => []
  | v :: rest => shown v :: shownItems rest

def shownEntries : List (String × Value) → List String
  | [] => []
  | (k, v) :: rest => (Quoted.quote k ++ ": " ++ shown v) :: shownEntries rest

end

/-- The text of a value that stands alone. A timestamp is shown by its own calendar date. -/
def asText : Value → String
  | text s => s
  | receiptType name => name
  | decimal d => d.plain
  | date d => d.iso
  | timestamp t => t.date.iso
  | v => shown v

mutual

/-- Whether all whole numbers in a value are short enough to be written. -/
def isWritable : Value → Bool
  | int n => WholeNumber.writable n
  | list items => areWritable items
  | object entries => entriesWritable entries
  | _ => true

def areWritable : List Value → Bool
  | [] => true
  | v :: rest => isWritable v && areWritable rest

def entriesWritable : List (String × Value) → Bool
  | [] => true
  | (_, v) :: rest => isWritable v && entriesWritable rest

end

end ReceiptRules.Value
