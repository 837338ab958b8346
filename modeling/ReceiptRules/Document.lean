import ReceiptRules.Failure
import ReceiptRules.Timestamp.Reader
import ReceiptRules.Value.Text

/-!
# Reading documents

Readers take a value and give a result or all the problems found, in the order of the document.
They are lenient: numbers and truth values may be written as text, and unknown names are ignored.
-/

namespace ReceiptRules

open Text

/-- A result or everything that is wrong. -/
inductive Checked (α : Type) where
  | ok (a : α)
  | bad (problems : List Problem)

namespace Checked

def map {α β : Type} (f : α → β) : Checked α → Checked β
  | ok a => ok (f a)
  | bad ps => bad ps

/-- Applies a result to a result; the problems of both sides are kept. -/
def apply {α β : Type} : Checked (α → β) → (Unit → Checked α) → Checked β
  | ok f, a => (a ()).map f
  | bad ps, a => match a () with
    | ok _ => bad ps
    | bad qs => bad (ps ++ qs)

instance : Applicative Checked where
  pure := ok
  map := map
  seq := apply

/-- Moves the problems to a place further up the document. -/
def within {α : Type} (step : PathStep) : Checked α → Checked α
  | ok a => ok a
  | bad ps => bad (ps.map fun p ↦ { p with path := step :: p.path })

def toExcept {α : Type} : Checked α → Except Failure α
  | ok a => .ok a
  | bad ps => .error (.invalidDocument ps)

end Checked

/-- How a value is read as something else. -/
abbrev Reader (α : Type) := Value → Checked α

namespace Reader

def fail {α : Type} (kind : ProblemKind) : Checked α := .bad [⟨[], kind⟩]

def text : Reader String
  | .text s | .receiptType s => .ok s
  | _ => fail .notText

/-- A member of a closed vocabulary, by its word. -/
def member {α : Type} [Vocabulary α] : Reader α
  | .text s | .receiptType s => match Vocabulary.read? s with
    | some a => .ok a
    | none => fail .notInVocabulary
  | _ => fail .notInVocabulary

def optional {α : Type} (read : Reader α) : Reader (Option α)
  | .null => .ok none
  | v => (read v).map some

/-! ## Numbers -/

def isSpace (c : Char) : Bool := Blank.isBlank c && !(0x1c ≤ c.toNat && c.toNat ≤ 0x1f)

/-- The whole number of a text: a sign, digits with single underscores between them, and zeros
behind a point. -/
def integerText? (cs : List Char) : Option Int :=
  let trimmed := ((cs.dropWhile isSpace).reverse.dropWhile isSpace).reverse
  let (negative, body) := WholeNumber.splitSign trimmed
  let whole := body.takeWhile (· != '.')
  let zeros := (body.dropWhile (· != '.')).drop 1
  if whole.all (fun c ↦ c.isDigit || c == '_') && zeros.all (· == '0') then
    (WholeNumber.digits? whole).map fun ds ↦
      let n : Int := Digit.number ds
      if negative then -n else n
  else none

/-- Bounds of 64-bit integers. -/
def inWord (n : Int) : Bool := -9223372036854775808 ≤ n && n ≤ 9223372036854775807

def wordLimit : Nat := 9223372036854775808

def ofFloat (x : Binary64) : Checked Int :=
  if !x.isFinite then fail .notFinite
  else match x.integer? with
    | none => fail .fractionalInteger
    | some n => if n.natAbs < wordLimit then .ok n else fail .integerTooLarge

/-- The whole number that a decimal is equal to. -/
def ofDecimal (d : Decimal.Extended) : Checked Int :=
  match d with
  | .finite d =>
    let (n, k) := Binary64.scaled d.coefficient 10 d.exponent
    if n % k == 0 then .ok (if d.negative then -(n / k : Nat) else (n / k : Nat))
    else fail .fractionalInteger
  | _ => fail .notFinite

def integer : Reader Int
  | .int n => .ok n
  | .bool b => .ok (if b then 1 else 0)
  | .float x => ofFloat x
  | .decimal d => ofDecimal d
  | .text s | .receiptType s =>
    if s.length > WholeNumber.digitLimit then fail .integerTooLarge
    else match integerText? s.toList with
      | some n => .ok n
      | none => fail .badIntegerText
  | _ => fail .notInteger

/-! ## Truth values -/

def trueWords : List String := ["1", "true", "t", "yes", "y", "on"]

def falseWords : List String := ["0", "false", "f", "no", "n", "off"]

def ofBit (n : Int) : Checked Bool :=
  if n == 0 then .ok false else if n == 1 then .ok true else fail .badBool

def boolOfFloat (x : Binary64) : Checked Bool :=
  match x.integer? with
  | some n => if n.natAbs < wordLimit then ofBit n else fail .notBool
  | none => fail .notBool

def bool : Reader Bool
  | .bool b => .ok b
  | .int n => if inWord n then ofBit n else fail .notBool
  | .float x => boolOfFloat x
  | .decimal d => boolOfFloat (Binary64.ofExtended d)
  | .text s | .receiptType s =>
    let word := String.ofList (s.toList.map Char.toLower)
    if trueWords.contains word then .ok true
    else if falseWords.contains word then .ok false
    else fail .badBool
  | _ => fail .notBool

/-! ## Timestamps -/

def found {α : Type} (kind : ProblemKind) : Option α → Checked α
  | some a => .ok a
  | none => fail kind

def timestamp : Reader Timestamp
  | .timestamp t => .ok t
  | .date d => .ok (Timestamp.midnight d)
  | .int n => found .badTimestamp (Timestamp.ofCount? n 0)
  | .float x => found .badTimestamp (Timestamp.ofFloat? x)
  | .decimal d => found .badTimestamp (Timestamp.ofFloat? (Binary64.ofExtended d))
  | .text s | .receiptType s => found .badTimestampText (Timestamp.read? s)
  | _ => fail .notTimestamp

/-! ## Lists and objects -/

def itemsFrom {α : Type} (read : Reader α) : Nat → List Value → Checked (List α)
  | _, [] => .ok []
  | n, v :: rest => List.cons <$> (read v).within (.index n) <*> itemsFrom read (n + 1) rest

def list {α : Type} (read : Reader α) : Reader (List α)
  | .list items => itemsFrom read 0 items
  | _ => fail .notList

/-- A document with named parts. -/
def model {α : Type} (read : List (String × Value) → Checked α) : Reader α
  | .object entries => read entries
  | _ => fail .notModel

def required {α : Type} (name : String) (read : Reader α) (entries : List (String × Value)) :
    Checked α :=
  (match entries.lookup name with
  | some v => read v
  | none => fail .missing).within (.key name)

def withDefault {α : Type} (name : String) (default : α) (read : Reader α)
    (entries : List (String × Value)) : Checked α :=
  match entries.lookup name with
  | some v => (read v).within (.key name)
  | none => .ok default

end Reader

end ReceiptRules
