import ReceiptRules.Text.Digit

/-!
# Calendar dates

Days of the Gregorian calendar from year 1 to year 9999, their order, and their numbering: day 1 is
the first of January of year 1, a Monday.
-/

namespace ReceiptRules

namespace Date

def isLeap (year : Nat) : Bool := year % 4 == 0 && (year % 100 != 0 || year % 400 == 0)

def daysInMonth (year month : Nat) : Nat :=
  match month with
  | 2 => if isLeap year then 29 else 28
  | 4 | 6 | 9 | 11 => 30
  | _ => 31

def daysInYear (year : Nat) : Nat := if isLeap year then 366 else 365

def isDay (year month day : Nat) : Bool :=
  1 ≤ year && year ≤ 9999 && 1 ≤ month && month ≤ 12 && 1 ≤ day && day ≤ daysInMonth year month

end Date

structure Date where
  year : Nat
  month : Nat
  day : Nat
  valid : Date.isDay year month day = true := by decide
deriving DecidableEq

namespace Date

/-- The date with these parts, if there is one. -/
def of? (year month day : Nat) : Option Date :=
  if h : isDay year month day = true then some ⟨year, month, day, h⟩ else none

@[simp] theorem of?_parts (d : Date) : of? d.year d.month d.day = some d := by
  simp [of?, d.valid]

theorem of?_eq_some_iff {y m d : Nat} {date : Date} :
    of? y m d = some date ↔ date.year = y ∧ date.month = m ∧ date.day = d := by
  constructor
  · intro h
    simp only [of?] at h
    split at h
    · cases h
      exact ⟨rfl, rfl, rfl⟩
    · cases h
  · rintro ⟨rfl, rfl, rfl⟩
    exact of?_parts date

/-- Order of days: by year, then month, then day of the month. -/
def compareDays (a b : Date) : Ordering :=
  (compare a.year b.year).then ((compare a.month b.month).then (compare a.day b.day))

/-! ## Day numbers -/

/-- Days before the first day of a year. -/
def daysBeforeYear (year : Nat) : Nat :=
  let past := year - 1
  365 * past + past / 4 - past / 100 + past / 400

/-- Days of the year before the first day of a month. -/
def daysBeforeMonth (year : Nat) : (month : Nat) → Nat
  | 0 | 1 => 0
  | month + 2 => daysBeforeMonth year (month + 1) + daysInMonth year (month + 1)

/-- The number of a day, counted from the first day of year 1. -/
def ordinal (d : Date) : Nat := daysBeforeYear d.year + daysBeforeMonth d.year d.month + d.day

/-- Month and day of the month from the days since the new year, starting the search at a month. -/
def monthAndDay (year : Nat) : (months : Nat) → (month days : Nat) → Nat × Nat
  | 0, month, days => (month, days + 1)
  | months + 1, month, days =>
    if days < daysInMonth year month then (month, days + 1)
    else monthAndDay year months (month + 1) (days - daysInMonth year month)

/-- The year in which a day falls that comes `days` days after the first, and the rest of `days`. -/
def yearAndDays (days : Nat) : Nat × Nat :=
  let in400 := days % 146097
  let centuries := min (in400 / 36524) 3
  let in100 := in400 - 36524 * centuries
  let in4 := in100 % 1461
  let years := min (in4 / 365) 3
  (400 * (days / 146097) + 100 * centuries + 4 * (in100 / 1461) + years + 1, in4 - 365 * years)

/-- The date of a day number. -/
def ofOrdinal? (n : Int) : Option Date :=
  if n < 1 then none
  else
    let (year, days) := yearAndDays (n.toNat - 1)
    let (month, day) := monthAndDay year 12 1 days
    of? year month day

/-- Day of the week, Monday being zero. -/
def weekday (d : Date) : Nat := (d.ordinal + 6) % 7

/-! ## Text -/

/-- Four-digit year, month and day with hyphens between. -/
def isoChars (d : Date) : List Char :=
  Text.Digit.padded 4 d.year ++ '-' :: Text.Digit.padded 2 d.month ++
    '-' :: Text.Digit.padded 2 d.day

def iso (d : Date) : String := String.ofList d.isoChars

end Date

end ReceiptRules
