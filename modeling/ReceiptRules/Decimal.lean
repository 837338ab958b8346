import ReceiptRules.Text.Digit

/-!
# Decimal numbers

A decimal keeps the digits it was written with: `100` and `100.00` are different decimals of one
value. The order looks at values only. Magnitudes are compared by their leading places first, so
that two decimals with far apart exponents are ordered without writing either of them out.
-/

namespace ReceiptRules

structure Decimal where
  negative : Bool
  coefficient : Nat
  exponent : Int
deriving DecidableEq, Repr

namespace Decimal

def ofInt (n : Int) : Decimal := ⟨n < 0, n.natAbs, 0⟩

def isZero (d : Decimal) : Bool := d.coefficient == 0

/-- The number of digits of the coefficient. -/
def width (d : Decimal) : Nat := (Text.Digit.digits d.coefficient).length

/-- The power of ten of the leading digit. -/
def magnitude (d : Decimal) : Int := d.exponent + d.width - 1

/-- The coefficient after moving to an exponent that is not above the decimal's own. -/
def scaledTo (e : Int) (d : Decimal) : Nat :=
  d.coefficient * Nat.pow 10 (d.exponent - e).toNat

/-- Comparison of absolute values. -/
def compareAbs (a b : Decimal) : Ordering :=
  if a.isZero || b.isZero then compare a.coefficient b.coefficient
  else match compare a.magnitude b.magnitude with
    | .eq =>
      let e := min a.exponent b.exponent
      compare (a.scaledTo e) (b.scaledTo e)
    | order => order

/-- Comparison of values; both zeros are equal whatever their signs. -/
def compareValue (a b : Decimal) : Ordering :=
  if a.isZero && b.isZero then .eq
  else match a.negative && !a.isZero, b.negative && !b.isZero with
    | false, false => compareAbs a b
    | true, true => compareAbs b a
    | false, true => .gt
    | true, false => .lt

/-- What a decimal variable can hold: a decimal, an infinity or no number at all. -/
inductive Extended where
  | finite (d : Decimal)
  | infinite (negative : Bool)
  | undefined (negative signalling : Bool) (payload : List Nat)
deriving DecidableEq, Repr

def Extended.finite? : Extended → Option Decimal
  | .finite d => some d
  | _ => none

end Decimal

end ReceiptRules
