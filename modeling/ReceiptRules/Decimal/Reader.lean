import ReceiptRules.Decimal
import ReceiptRules.Text.Search

/-!
# Reading decimals

Decimal text has an optional sign and then digits with an optional point and an optional exponent,
or the name of an infinity or of an undefined number. Blanks around it and underscores anywhere
are dropped, and the digits of every script count. Amounts also admit thousands commas and one
currency mark in front; what is not a finite decimal is no amount.
-/

namespace ReceiptRules.Decimal

open Text

/-- A character of decimal text in its plain spelling; no value for one that cannot occur. -/
def plainCharacter? (c : Char) : Option Char :=
  if c.toNat < 128 then some c else (Digit.value? c).map Digit.char

/-- Text without surrounding blanks and underscores, and with plain digits. -/
def normalised? (cs : List Char) : Option (List Char) :=
  ((Blank.trimChars cs).filter (· != '_')).mapM plainCharacter?

def digitValues (cs : List Char) : List Nat := cs.map fun c ↦ c.toNat - '0'.toNat

def isPlainDigit (c : Char) : Bool := c.isDigit

/-- Sign in front of a text, and the rest. -/
def splitSign : List Char → Bool × List Char
  | '-' :: rest => (true, rest)
  | '+' :: rest => (false, rest)
  | cs => (false, cs)

/-- Bounds of the exponents that are stored without rounding. -/
def largestMagnitude : Int := 999999999999999999

def leastExponent : Int := -1999999999999999997

def fits (d : Decimal) : Bool :=
  leastExponent ≤ d.exponent && d.magnitude ≤ largestMagnitude

/-- A signed row of digits that takes up the whole text. -/
def wholeInt? (cs : List Char) : Option Int :=
  let (negative, digits) := splitSign cs
  if digits.isEmpty || !digits.all isPlainDigit then none
  else
    let n := Digit.number (digitValues digits)
    some (if negative then -n else n)

/-- The exponent part: nothing, or the letter e and a signed number. -/
def exponent? : List Char → Option Int
  | [] => some 0
  | c :: rest => if c.toLower == 'e' then wholeInt? rest else none

/-- Digits with an optional point and exponent. -/
def unsigned? (negative : Bool) (cs : List Char) : Option Decimal :=
  let whole := cs.takeWhile isPlainDigit
  let afterWhole := cs.dropWhile isPlainDigit
  let (fraction, tail) := match afterWhole with
    | '.' :: rest => (rest.takeWhile isPlainDigit, rest.dropWhile isPlainDigit)
    | rest => ([], rest)
  if whole.isEmpty && fraction.isEmpty then none
  else (exponent? tail).bind fun e ↦
    let d : Decimal :=
      ⟨negative, Digit.number (digitValues (whole ++ fraction)), e - fraction.length⟩
    if d.fits then some d else none

def infinityNames : List String := ["inf", "infinity"]

/-- The name of an undefined number and the digits after it. -/
def undefined? (negative : Bool) (cs : List Char) : Option Extended :=
  let (signalling, rest) := match cs with
    | 's' :: rest => (true, rest)
    | rest => (false, rest)
  match rest with
  | 'n' :: 'a' :: 'n' :: digits =>
    if digits.all isPlainDigit then
      some (.undefined negative signalling (digitValues (digits.dropWhile (· == '0'))))
    else none
  | _ => none

def Extended.readChars? (cs : List Char) : Option Extended :=
  (normalised? cs).bind fun text ↦
    let (negative, body) := splitSign text
    match unsigned? negative body with
    | some d => some (.finite d)
    | none =>
      let name := body.map Char.toLower
      if infinityNames.contains (String.ofList name) then some (.infinite negative)
      else undefined? negative name

def Extended.read? (s : String) : Option Extended := Extended.readChars? s.toList

/-! ## Amounts -/

def currencyMarks : List Char := ['¥', '￥', '$', '€']

/-- Text after one leading currency mark and the blanks behind it. -/
def dropCurrency : List Char → List Char
  | [] => []
  | c :: rest => if currencyMarks.contains c then Blank.trimChars rest else c :: rest

/-- The amount a text spells. -/
def amountOfChars? (cs : List Char) : Option Decimal :=
  (Extended.readChars? (dropCurrency ((Blank.trimChars cs).filter (· != ',')))).bind
    Extended.finite?

def amountOfText? (s : String) : Option Decimal := amountOfChars? s.toList

end ReceiptRules.Decimal
