import ReceiptRules.Decimal.Reader

/-!
# Binary floating-point numbers

Numbers of the double-precision format as exact values: a finite one is `significand * 2 ^ exponent`
with the significand below `2 ^ 53`. Decimal text becomes the nearest such number, ties going to
the even significand.
-/

namespace ReceiptRules

inductive Binary64 where
  | finite (negative : Bool) (significand : Nat) (exponent : Int)
  | infinite (negative : Bool)
  | undefined
deriving DecidableEq, Repr

namespace Binary64

def significandBits : Nat := 53

/-- Above every significand. -/
def significandEnd : Nat := Nat.pow 2 significandBits

/-- The least significand that takes all its bits. -/
def fullSignificand : Nat := Nat.pow 2 (significandBits - 1)

def leastExponent : Int := -1074

def greatestExponent : Int := 971

/-- The quotient rounded to the nearest whole number, a half going to the even neighbour. -/
def roundHalfEven (numerator denominator : Nat) : Nat :=
  let q := numerator / denominator
  let twice := 2 * (numerator % denominator)
  if twice < denominator || (twice == denominator && q % 2 == 0) then q else q + 1

/-- `n * base ^ e` as a quotient of whole numbers. -/
def scaled (n : Nat) (base : Nat) (e : Int) : Nat × Nat :=
  match e with
  | .ofNat k => (n * Nat.pow base k, 1)
  | .negSucc k => (n, Nat.pow base (k + 1))

/-- The number nearest to a positive quotient. -/
def ofQuotient (negative : Bool) (numerator denominator : Nat) : Binary64 :=
  let rough : Int := (Nat.log2 numerator : Int) - Nat.log2 denominator - significandBits
  let atExponent (q : Int) : Nat × Nat :=
    match q with
    | .ofNat k => (numerator, denominator * Nat.pow 2 k)
    | .negSucc k => (numerator * Nat.pow 2 (k + 1), denominator)
  let (n, d) := atExponent rough
  let q := max leastExponent (if n / d < significandEnd then rough else rough + 1)
  let (n, d) := atExponent q
  let m := roundHalfEven n d
  let (m, q) := if m == significandEnd then (fullSignificand, q + 1) else (m, q)
  if q > greatestExponent then .infinite negative else .finite negative m q

/-- The number nearest to a decimal. -/
def ofDecimal (d : Decimal) : Binary64 :=
  if d.isZero || d.magnitude < -400 then .finite d.negative 0 leastExponent
  else if d.magnitude > 400 then .infinite d.negative
  else
    let (n, k) := scaled d.coefficient 10 d.exponent
    ofQuotient d.negative n k

def ofExtended : Decimal.Extended → Binary64
  | .finite d => ofDecimal d
  | .infinite negative => .infinite negative
  | .undefined _ _ _ => .undefined

/-- The number nearest to the decimal that the text writes. -/
def read? (s : String) : Option Binary64 := (Decimal.Extended.read? s).map ofExtended

/-- The whole number that a finite float is equal to. -/
def integer? : Binary64 → Option Int
  | .finite negative m e =>
    let (n, d) := scaled m 2 e
    if n % d == 0 then some (if negative then -(n / d : Nat) else (n / d : Nat)) else none
  | _ => none

def isFinite : Binary64 → Bool
  | .finite _ _ _ => true
  | _ => false

end Binary64

end ReceiptRules
