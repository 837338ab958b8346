import ReceiptRules.Category
import ReceiptRules.Date.Reader
import ReceiptRules.Failure
import ReceiptRules.Field
import ReceiptRules.Value
import ReceiptRules.Value.Text

/-!
# Settings and contents of fields

What a classification can be told beside its rules: how lists are separated, how dates are written,
and what becomes of receipts that no rule matches.

A field of a receipt is read according to its kind. A value that should be a number or a date and is
none is taken as text, if it has one; a value that is absent is told apart from an empty text.
-/

namespace ReceiptRules

/-! ## Settings -/

structure Settings where
  /-- Stands between the elements of a list to compare with. -/
  listSeparator : String := ","
  /-- Tried in order on every text that should be a date. -/
  dateFormats : List String := Date.defaultFormats
  unmatchedCategory : Option Category := none
  unmatchedNumbered : Bool := false
  /-- Archive code where neither an action nor a category names one. -/
  defaultCode : String := Category.archiveCode .other
deriving DecidableEq

/-! ## Contents -/

/-- What a field holds. -/
inductive Content where
  | text (s : String)
  | number (d : Decimal)
  | date (d : Date)
deriving DecidableEq

namespace Content

def asText : Content → String
  | text s => s
  | number d => d.plain
  | date d => d.iso

end Content

namespace Value

/-- The amount that a value stands for. Truth values and numbers that are not finite are none. -/
def amount? : Value → Option Decimal
  | decimal d => d.finite?
  | int n => some (Decimal.ofInt n)
  | float x => (Decimal.Extended.read? x.text).bind Decimal.Extended.finite?
  | text s | receiptType s => Decimal.amountOfText? s
  | _ => none

end Value

namespace Settings

/-- The date that a text stands for. -/
def dateOfText? (settings : Settings) (s : String) : Except Failure (Option Date) :=
  match Date.ofText? settings.dateFormats s with
  | .ok d => .ok d
  | .error e => .error (.dateFormat e)

/-- The date that a value stands for. A timestamp stands for its own calendar date. -/
def dateOf? (settings : Settings) : Value → Except Failure (Option Date)
  | .timestamp t => .ok (some t.date)
  | .date d => .ok (some d)
  | .text s | .receiptType s => settings.dateOfText? s
  | _ => .ok none

end Settings

namespace Value

/-- The kind of a value that stands where a date format should be. -/
def formatKind : Value → String
  | null => "None"
  | v => v.kindName

/-- The date that a text stands for by the first fitting one of some formats, which have to be
texts. -/
def dateOfTextBy (s : String) : List Value → Except Failure (Option Date)
  | [] => .ok none
  | .text format :: rest | .receiptType format :: rest =>
    match Date.ofText? [format] s with
    | .ok (some d) => .ok (some d)
    | .ok none => dateOfTextBy s rest
    | .error e => .error (.dateFormat e)
  | v :: _ => .error (.formatNotText v.formatKind)

/-- The date that a value stands for by some formats. -/
def dateBy (formats : List Value) (v : Value) : Except Failure (Option Date) :=
  match v with
  | .text s | .receiptType s =>
    if (Text.Blank.trim s).isEmpty then .ok none else dateOfTextBy s formats
  | v => Settings.dateOf? {} v

end Value

/-- The text of a value that can be written. -/
def Value.written (v : Value) : Except Failure String :=
  if v.isWritable then .ok v.asText else .error .unwritableNumber

/-- What a value stands for in a field of some kind, apart from its text. -/
def Settings.contentOf? (settings : Settings) (v : Value) :
    FieldKind → Except Failure (Option Content)
  | .text => .ok none
  | .number => .ok (v.amount?.map .number)
  | .date => (settings.dateOf? v).map fun d ↦ d.map .date

namespace Field

/-- The content of a field; no value where the receipt has none. -/
def contentIn (settings : Settings) (receipt : Receipt) (f : Field) :
    Except Failure (Option Content) :=
  match receipt.get f with
  | .null => .ok none
  | v => do
    match ← settings.contentOf? v f.kind with
    | some content => return some content
    | none => v.written.map fun s ↦ some (.text s)

/-- The field that an identifier names. -/
def ofIdentifier (v : Value) : Except Failure Field :=
  let found := match v with
    | .text s | .receiptType s => ofWord? s
    | _ => none
  match found with
  | some f => .ok f
  | none => .error (.unknownField v.shown)

end Field

end ReceiptRules
