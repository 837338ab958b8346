import ReceiptRules.Date

/-!
# Timestamps

A date with a time of day, to the microsecond, and an offset from universal time where one is known.
-/

namespace ReceiptRules

/-- An offset from universal time in minutes, shorter than a day. -/
structure UtcOffset where
  minutes : Int
  inDay : minutes.natAbs < 1440 := by decide
deriving DecidableEq

structure Timestamp where
  date : Date
  hour : Fin 24
  minute : Fin 60
  second : Fin 60
  microsecond : Fin 1000000
  offset : Option UtcOffset
deriving DecidableEq

namespace Timestamp

open Text

def utc : UtcOffset := ⟨0, by decide⟩

/-- What is left of a number when whole rounds of a length are taken away. -/
def wrapped (length n : Nat) (h : 0 < length) : Fin length := ⟨n % length, Nat.mod_lt n h⟩

def hourOf (n : Nat) : Fin 24 := wrapped 24 n (by decide)

def minuteOf (n : Nat) : Fin 60 := wrapped 60 n (by decide)

def microsecondOf (n : Nat) : Fin 1000000 := wrapped 1000000 n (by decide)

def midnight (date : Date) : Timestamp :=
  ⟨date, hourOf 0, minuteOf 0, minuteOf 0, microsecondOf 0, none⟩

/-- The moment that many seconds and microseconds after the start of 1970, in universal time. -/
def ofUnix? (seconds : Int) (microsecond : Fin 1000000) : Option Timestamp :=
  let day := Int.fdiv seconds 86400
  let second := (Int.fmod seconds 86400).toNat
  (Date.ofOrdinal? (719163 + day)).map fun date ↦
    ⟨date, hourOf (second / 3600), minuteOf (second / 60), minuteOf second, microsecond, some utc⟩

def fractionChars (microsecond : Nat) : List Char :=
  if microsecond == 0 then [] else '.' :: Digit.padded 6 microsecond

def offsetChars (offset : UtcOffset) : List Char :=
  let minutes := offset.minutes.natAbs
  (if offset.minutes < 0 then '-' else '+') :: Digit.padded 2 (minutes / 60) ++
    ':' :: Digit.padded 2 (minutes % 60)

def localChars (t : Timestamp) : List Char :=
  t.date.isoChars ++ 'T' :: Digit.padded 2 t.hour ++ ':' :: Digit.padded 2 t.minute ++
    ':' :: Digit.padded 2 t.second ++ fractionChars t.microsecond

/-- Date and time with the offset in figures. -/
def isoChars (t : Timestamp) : List Char :=
  t.localChars ++ (t.offset.map offsetChars).getD []

def iso (t : Timestamp) : String := String.ofList t.isoChars

/-- Date and time with the letter Z for universal time. -/
def storedChars (t : Timestamp) : List Char :=
  t.localChars ++ match t.offset with
    | none => []
    | some offset => if offset.minutes == 0 then ['Z'] else offsetChars offset

def stored (t : Timestamp) : String := String.ofList t.storedChars

end Timestamp

end ReceiptRules
