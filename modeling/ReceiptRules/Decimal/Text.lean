import ReceiptRules.Decimal

/-!
# Decimal text

A decimal is shown without an exponent (`plain`) or in the spelling that keeps its digits and its
exponent apart where they do not fit (`exact`).
-/

namespace ReceiptRules.Decimal

open Text

def signText (negative : Bool) : List Char := if negative then ['-'] else []

/-- Digits with a point in front of the last `places` of them, and zeros where digits lack. -/
def withPoint (places : Nat) (digits : List Char) : List Char :=
  let filled := List.replicate (places + 1 - digits.length) '0' ++ digits
  filled.take (filled.length - places) ++ '.' :: filled.drop (filled.length - places)

/-- Absolute value without exponent. A zero with a positive exponent is a single zero. -/
def plainAbs (d : Decimal) : List Char :=
  let digits := Digit.text d.coefficient
  match d.exponent with
  | .ofNat 0 => digits
  | .ofNat e => if d.isZero then digits else digits ++ List.replicate e '0'
  | .negSucc k => withPoint (k + 1) digits

def plainChars (d : Decimal) : List Char := signText d.negative ++ d.plainAbs

def plain (d : Decimal) : String := String.ofList d.plainChars

def signedText (n : Int) : List Char :=
  (if n < 0 then '-' else '+') :: Digit.text n.natAbs

/-- Absolute value, with an exponent when the exponent is positive or the value is below `1E-6`. -/
def exactAbs (d : Decimal) : List Char :=
  if d.exponent ≤ 0 && d.magnitude ≥ -6 then d.plainAbs
  else
    let mantissa := match Digit.text d.coefficient with
      | first :: second :: rest => first :: '.' :: second :: rest
      | short => short
    if d.magnitude == 0 then mantissa else mantissa ++ 'E' :: signedText d.magnitude

def exact (d : Decimal) : String := String.ofList (signText d.negative ++ d.exactAbs)

namespace Extended

private def specialChars : Extended → List Char
  | .finite d => d.plainChars
  | .infinite negative => signText negative ++ "Infinity".toList
  | .undefined negative signalling payload =>
    signText negative ++ (if signalling then ['s'] else []) ++ "NaN".toList ++
      payload.map Digit.char

def plain (d : Extended) : String := String.ofList d.specialChars

def exact : Extended → String
  | .finite d => d.exact
  | d => d.plain

end Extended

end ReceiptRules.Decimal
