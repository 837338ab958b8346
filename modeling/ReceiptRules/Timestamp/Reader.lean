import ReceiptRules.Timestamp
import ReceiptRules.Binary64
import ReceiptRules.Text.Case

/-!
# Reading timestamps

A timestamp is written as a date, a separator, a time of day with optional seconds and fraction, and
an optional offset; or as a date alone, which is its midnight; or as a count of seconds or
milliseconds since the start of 1970. Counts above `2 * 10 ^ 10` are taken for milliseconds.
-/

namespace ReceiptRules.Timestamp

open Text

/-! ## Parts of the written form -/

def digit? (c : Char) : Option Nat := if c.isDigit then some (c.toNat - '0'.toNat) else none

/-- Two digits at the start of a text. -/
def two? : List Char → Option (Nat × List Char)
  | a :: b :: rest => do return (10 * (← digit? a) + (← digit? b), rest)
  | _ => none

/-- A number in bounds that two digits write. -/
def twoBelow? (n : Nat) (cs : List Char) : Option (Fin n × List Char) :=
  (two? cs).bind fun (k, rest) ↦ if h : k < n then some (⟨k, h⟩, rest) else none

def char? (expected : Char) : List Char → Option (List Char)
  | c :: rest => if c == expected then some rest else none
  | [] => none

/-- A date of ten characters at the start of a text. -/
def datePart? (cs : List Char) : Option (Date × List Char) := do
  let (century, cs) ← two? cs
  let (year, cs) ← two? cs
  let cs ← char? '-' cs
  let (month, cs) ← two? cs
  let cs ← char? '-' cs
  let (day, cs) ← two? cs
  return (← Date.of? (100 * century + year) month day, cs)

/-- Fraction of a second in microseconds; digits after the sixth are dropped. -/
def fraction? : List Char → Option (Fin 1000000 × List Char)
  | c :: rest =>
    if c == '.' || c == ',' then
      let digits := rest.takeWhile Char.isDigit
      if digits.isEmpty then none
      else
        let six := (digits ++ List.replicate 6 '0').take 6
        some (microsecondOf (Digit.number (six.filterMap digit?)), rest.dropWhile Char.isDigit)
    else some (microsecondOf 0, c :: rest)
  | [] => some (microsecondOf 0, [])

def seconds? : List Char → Option (Fin 60 × Fin 1000000 × List Char)
  | ':' :: rest => do
    let (second, rest) ← twoBelow? 60 rest
    let (microsecond, rest) ← fraction? rest
    return (second, microsecond, rest)
  | rest => some (minuteOf 0, microsecondOf 0, rest)

/-- The digits of an offset behind its sign. -/
def offsetMinutes? (cs : List Char) : Option (Nat × List Char) := do
  let (hours, cs) ← two? cs
  let cs := match cs with
    | ':' :: rest => rest
    | rest => rest
  let (minutes, cs) ← two? cs
  if minutes < 60 then return (60 * hours + minutes, cs) else none

def offsetOf? (minutes : Int) : Option UtcOffset :=
  if h : minutes.natAbs < 1440 then some ⟨minutes, h⟩ else none

/-- An offset that takes up the whole text, or none at all. -/
def offset? : List Char → Option (Option UtcOffset)
  | [] => some none
  | c :: rest =>
    if c == 'Z' || c == 'z' then if rest.isEmpty then some (some utc) else none
    else if c == '+' || c == '-' || c == '−' then do
      let (minutes, rest) ← offsetMinutes? rest
      let offset ← offsetOf? (if c == '+' then minutes else -minutes)
      if rest.isEmpty then return some offset else none
    else none

def isSeparator (c : Char) : Bool := c == 'T' || c == 't' || c == ' ' || c == '_'

/-- Date, separator and time of day. -/
def written? (cs : List Char) : Option Timestamp := do
  match ← datePart? cs with
  | (date, c :: cs) =>
    if !isSeparator c then none
    let (hour, cs) ← twoBelow? 24 cs
    let cs ← char? ':' cs
    let (minute, cs) ← twoBelow? 60 cs
    let (second, microsecond, cs) ← seconds? cs
    let offset ← offset? cs
    return ⟨date, hour, minute, second, microsecond, offset⟩
  | (_, []) => none

/-- A date with nothing behind it. -/
def dateAlone? (cs : List Char) : Option Timestamp :=
  match datePart? cs with
  | some (date, []) => some (midnight date)
  | _ => none

/-! ## Counts since 1970 -/

def greatestSeconds : Nat := 20000000000

/-- First second of 1600 and last second of 9999. -/
def inUnixRange (seconds : Int) : Bool := -11676096000 ≤ seconds && seconds ≤ 253402300799

/-- A count of seconds, or of milliseconds when it is too large for seconds, and extra
microseconds. -/
def ofCount? (count : Int) (extra : Nat) : Option Timestamp :=
  let (seconds, microseconds) :=
    if count.natAbs ≤ greatestSeconds then (count, extra)
    else (Int.fdiv count 1000, (Int.fmod count 1000).toNat * 1000 + extra)
  let seconds := seconds + (microseconds / 1000000 : Nat)
  if inUnixRange seconds then ofUnix? seconds (microsecondOf microseconds) else none

/-- A whole number with an optional sign. -/
def countText? (cs : List Char) : Option Int :=
  Decimal.wholeInt? cs

/-- Whole part and microseconds of a float, the fraction rounded. -/
def ofFloat? : Binary64 → Option Timestamp
  | .finite negative m q =>
    let (n, d) := Binary64.scaled m 2 q
    let whole : Int := Int.fdiv (if negative then -(n : Int) else n) d
    ofCount? whole (Binary64.roundHalfEven (n % d * 1000000) d)
  | _ => none

/-- A count with a fraction, in figures. -/
def fractionalText? (cs : List Char) : Option Timestamp :=
  if cs.all fun c ↦ c.isDigit || c == '.' || c == '-' || c == '+' then
    (Binary64.read? (String.ofList cs)).bind ofFloat?
  else none

/-- Reads any of the spellings. -/
def read? (s : String) : Option Timestamp :=
  let cs := s.toList
  match written? cs with
  | some t => some t
  | none =>
    let counted := match countText? cs with
      | some n => ofCount? n 0
      | none => fractionalText? cs
    match counted with
    | some t => some t
    | none => dateAlone? cs

end ReceiptRules.Timestamp
