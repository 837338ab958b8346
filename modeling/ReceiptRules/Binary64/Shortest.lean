import ReceiptRules.Binary64
import ReceiptRules.Decimal.Text

/-!
# Shortest decimal text

A float is shown with the fewest digits that read back as the same float, and among those with the
digits nearest to its value; where two are equally near, the last digit is even. For each number of
digits the two neighbours of the value on that decimal grid are tried, and the first grid with a
neighbour in the interval of reals that round to the float decides. The point is written in place from
`1e-4` up to below `1e16`.
-/

namespace ReceiptRules.Binary64

open Text

/-- Numbers over one common denominator: the value, half the gap below it and half the gap above. -/
structure Interval where
  value : Nat
  below : Nat
  above : Nat
  denominator : Nat
  closed : Bool

/-- The reals that round to `m * 2 ^ q`. The gap below a power of two is half as wide. -/
def interval (m : Nat) (q : Int) : Interval :=
  let narrow := m == fullSignificand && q > leastExponent
  let (unit, denominator) := match q with
    | .ofNat k => (Nat.pow 2 k, 4)
    | .negSucc k => (1, 4 * Nat.pow 2 (k + 1))
  ⟨4 * m * unit, if narrow then unit else 2 * unit, 2 * unit, denominator, m % 2 == 0⟩

/-- Whether `digits * 10 ^ e` lies in the interval. -/
def Interval.contains (i : Interval) (digits : Nat) (e : Int) : Bool :=
  let (n, d) := scaled digits 10 e
  let point := n * i.denominator
  let low := (i.value - i.below) * d
  let high := (i.value + i.above) * d
  if i.closed then low ≤ point && point ≤ high else low < point && point < high

/-- The digits of the value on the grid `10 ^ e`, rounded down, and whether the upper neighbour is
nearer, or as near and even. -/
def Interval.onGrid (i : Interval) (e : Int) : Nat × Bool :=
  let (n, d) := match e with
    | .ofNat k => (i.value, i.denominator * Nat.pow 10 k)
    | .negSucc k => (i.value * Nat.pow 10 (k + 1), i.denominator)
  (n / d, roundHalfEven n d == n / d + 1)

/-- A shortest neighbour, trying finer and finer grids. -/
def Interval.shortest (i : Interval) : Nat → Int → Nat × Int
  | 0, e => ((i.onGrid e).1, e)
  | tries + 1, e =>
    let (low, upper) := i.onGrid e
    let lowFits := i.contains low e && low != 0
    let highFits := i.contains (low + 1) e
    if lowFits && highFits then (if upper then low + 1 else low, e)
    else if lowFits then (low, e)
    else if highFits then (low + 1, e)
    else i.shortest tries (e - 1)

/-- The power of ten of the leading digit of a positive quotient. -/
def leadingPower (n d : Nat) : Int :=
  if n ≥ d then (Digit.digits (n / d)).length - 1
  else
    let guess : Nat := (Digit.digits (d / n)).length
    if n * Nat.pow 10 (guess - 1) ≥ d then 1 - (guess : Int) else -(guess : Int)

/-- The shortest digits of a positive float and the power of ten of the last of them. -/
def shortestDigits (m : Nat) (q : Int) : Nat × Int :=
  let i := interval m q
  i.shortest 20 (leadingPower i.value i.denominator)

/-- Digits written with an exponent of at least two places. -/
def withExponent (digits : List Char) (power : Int) : List Char :=
  let mantissa := match digits with
    | first :: second :: rest => first :: '.' :: second :: rest
    | short => short
  mantissa ++ 'e' :: (if power < 0 then '-' else '+') :: Digit.padded 2 power.natAbs

def finiteText (m : Nat) (q : Int) : List Char :=
  if m == 0 then ['0', '.', '0']
  else
    let (n, e) := shortestDigits m q
    let digits := (Digit.text n).reverse.dropWhile (· == '0') |>.reverse
    let power := e + (Digit.text n).length - 1
    if power < -4 || power ≥ 16 then withExponent digits power
    else if power < 0 then
      '0' :: '.' :: List.replicate (power.natAbs - 1) '0' ++ digits
    else
      let whole := power.natAbs + 1
      if digits.length ≤ whole then
        digits ++ List.replicate (whole - digits.length) '0' ++ ['.', '0']
      else digits.take whole ++ '.' :: digits.drop whole

def text : Binary64 → String
  | .finite negative m q => String.ofList (Decimal.signText negative ++ finiteText m q)
  | .infinite negative => if negative then "-inf" else "inf"
  | .undefined => "nan"

end ReceiptRules.Binary64
