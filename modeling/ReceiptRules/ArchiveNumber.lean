import ReceiptRules.Category
import ReceiptRules.Date
import ReceiptRules.Directive
import ReceiptRules.Failure
import ReceiptRules.Text.Case
import ReceiptRules.Text.Digit

/-!
# Archive numbers

An archive number is written `YYYY-MM-CODE-NNNN`: the period, the category code and a serial of at
least four digits, with hyphens between. Serials count up within a period and a code; the counters
start after the highest serial among the numbers that are known.

A directive that asks for an archive number and has none gets the next one of its key. The counters
come out beside the result, since they may move even when no number can be given.
-/

namespace ReceiptRules.ArchiveNumber

open Text

/-! ## The written form -/

/-- A serial of at least four characters, its sign included. -/
def serialChars (n : Int) : List Char :=
  if n < 0 then '-' :: Digit.padded 3 n.natAbs else Digit.padded 4 n.natAbs

def chars (key : NumberKey) (serial : Int) : List Char :=
  key.period.toList ++ '-' :: key.code.toList ++ '-' :: serialChars serial

def format (key : NumberKey) (serial : Int) : String := String.ofList (chars key serial)

/-- The number of a key and a serial. A serial of more digits than can be written has none. -/
def write? (key : NumberKey) (serial : Int) : Option String :=
  if WholeNumber.writable serial then some (format key serial) else none

/-- Period of a day. -/
def periodOf (d : Date) : String :=
  String.ofList (Digit.padded 4 d.year ++ '-' :: Digit.padded 2 d.month)

def isCodeChar (c : Char) : Bool := c.isUpper || c.isDigit

/-- Four digits, a hyphen and two digits, of any script, and what follows the hyphen behind them. -/
def splitPeriod : List Char → Option (List Char × List Char)
  | a :: b :: c :: d :: '-' :: e :: f :: '-' :: rest =>
    if [a, b, c, d, e, f].all Digit.isDigit then some ([a, b, c, d, '-', e, f], rest) else none
  | _ => none

/-- Period, code and the digits of the serial of a number. -/
def split (cs : List Char) : Option (NumberKey × List Nat) := do
  let (period, rest) ← splitPeriod cs
  let code := rest.takeWhile isCodeChar
  if code.isEmpty then none
  match rest.dropWhile isCodeChar with
  | '-' :: digits =>
    if digits.isEmpty then none
    let values ← digits.mapM Digit.value?
    return (⟨String.ofList period, String.ofList code⟩, values)
  | _ => none

structure TooManyDigits where
  digits : Nat
deriving DecidableEq, Repr

/-- Reads a number, blanks around it apart. Serials of more digits than can be read are refused. -/
def read (s : String) : Except TooManyDigits (Option (NumberKey × Nat)) :=
  match split (Blank.trimChars s.toList) with
  | none => .ok none
  | some (key, digits) =>
    if digits.length > WholeNumber.digitLimit then .error ⟨digits.length⟩
    else .ok (some (key, Digit.number digits))

/-! ## Category codes -/

def greatestCodeLength : Nat := 8

/-- The archive code that a text names: that of a category, or the text itself in capitals if it is
fit to be a code. -/
def codeOf? (s : String) : Option String :=
  let text := Case.upperText (Blank.trim s)
  match Category.ofWord? text with
  | some c => some c.archiveCode
  | none =>
    let cs := text.toList
    if !cs.isEmpty && cs.length ≤ greatestCodeLength && cs.all isCodeChar then some text else none

/-! ## Counters -/

/-- The last serial of each key. -/
structure Counters where
  serials : List (NumberKey × Nat)

namespace Counters

def empty : Counters := ⟨[]⟩

def current (c : Counters) (key : NumberKey) : Nat := (c.serials.lookup key).getD 0

def put (key : NumberKey) (serial : Nat) : List (NumberKey × Nat) → List (NumberKey × Nat)
  | [] => [(key, serial)]
  | (k, n) :: rest => if k = key then (k, serial) :: rest else (k, n) :: put key serial rest

/-- Counters that have also seen a number. -/
def see (c : Counters) (key : NumberKey) (serial : Nat) : Counters :=
  ⟨put key (max (c.current key) serial) c.serials⟩

/-- Counters that go on after the numbers among the texts. -/
def ofNumbers (texts : List String) : Except TooManyDigits Counters :=
  texts.foldlM (fun c s ↦ do
    match ← read s with
    | some (key, serial) => return c.see key serial
    | none => return c) empty

def advance (c : Counters) (key : NumberKey) : Counters :=
  ⟨put key (c.current key + 1) c.serials⟩

/-- The next number of a key. The counter moves on even when the number is too long to be
written. -/
def next (c : Counters) (key : NumberKey) : Option String × Counters :=
  (write? key (c.current key + 1 : Nat), c.advance key)

end Counters

end ReceiptRules.ArchiveNumber

/-! ## Numbering directives -/

namespace ReceiptRules.Directive

open ArchiveNumber

def hasNumber (d : Directive) : Bool := d.archiveNumber.any fun n ↦ !n.isEmpty

/-- Gives the directive the number that it asks for. -/
def assignNumber (d : Directive) (counters : Counters) : Except Failure Directive × Counters :=
  match d.numberRequest with
  | none => (.ok d, counters)
  | some key =>
    if d.hasNumber then (.ok d, counters)
    else match counters.next key with
      | (some number, moved) => (.ok { d with archiveNumber := some number }, moved)
      | (none, moved) => (.error .unwritableSerial, moved)

end ReceiptRules.Directive
