import ReceiptRules.Failure
import ReceiptRules.Value
import ReceiptRules.Value.Text

/-!
# Loose readings of values

What a value holds when it is gone through item by item, and the whole number that it stands for.
Values that cannot be read in this way are refused by the name of their kind.
-/

namespace ReceiptRules.Value

open Text

/-- What a value holds one after the other: the items of a list, the keys of an object, the
characters of a text. -/
def items? : Value → Option (List Value)
  | list items => some items
  | object entries => some (entries.map fun (k, _) ↦ text k)
  | text s | receiptType s => some (s.toList.map fun c ↦ text c.toString)
  | _ => none

def items (v : Value) : Except Failure (List Value) :=
  match v.items? with
  | some items => .ok items
  | none => .error (.notIterable v.kindName)

/-- The entry under a key of an object, or what stands for it if there is none. -/
def entryOr (v : Value) (key : String) (missing : Value) : Except Failure Value :=
  match v with
  | object entries => .ok ((entries.lookup key).getD missing)
  | v => .error (.noEntries v.kindName)

/-- The shown form of a value that is no number, as far as it fits. -/
def shownNumber (v : Value) : String := String.ofList (v.shown.toList.take 200)

/-- A number without its fraction. -/
def truncated (negative : Bool) (coefficient base : Nat) (exponent : Int) : Int :=
  let (n, k) := Binary64.scaled coefficient base exponent
  let whole : Int := (n / k : Nat)
  if negative then -whole else whole

/-- The whole number that a value is read as; fractions are cut off. -/
def wholeNumber (v : Value) : Except Failure Int :=
  match v with
  | bool b => .ok (if b then 1 else 0)
  | int n => .ok n
  | float (.finite negative m e) => .ok (truncated negative m 2 e)
  | float (.infinite _) => .error (.infiniteToInteger "float infinity")
  | float .undefined => .error (.undefinedToInteger "float NaN")
  | decimal (.finite d) => .ok (truncated d.negative d.coefficient 10 d.exponent)
  | decimal (.infinite _) => .error (.infiniteToInteger "Infinity")
  | decimal _ => .error (.undefinedToInteger "NaN")
  | text s | receiptType s => match WholeNumber.read s with
    | .ok n => .ok n
    | .error .notANumber => .error (.notWhole (shownNumber v))
    | .error (.tooManyDigits digits) => .error (.longNumber digits)
  | _ => .error (.notNumeric v.kindName)

/-- Whether a value is neither null nor false, zero or empty. -/
def isPresent : Value → Bool
  | null => false
  | bool b => b
  | int n => n != 0
  | float (.finite _ m _) => m != 0
  | decimal (.finite d) => !d.isZero
  | text s | receiptType s => !s.isEmpty
  | list items => !items.isEmpty
  | object entries => !entries.isEmpty
  | _ => true

end ReceiptRules.Value
