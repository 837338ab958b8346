import ReceiptRules.Date

/-!
# Standard date texts

A date written in figures: year, month and day, or year, week and day of the week, each with hyphens
between all parts or none. A week without a day stands for its Monday. A text of ten bytes without
hyphens may go on behind the date.
-/

namespace ReceiptRules.Date

/-- The number that the first digits of a text write. -/
def figures? (count : Nat) (cs : List Char) : Option (Nat × List Char) :=
  let digits := cs.take count
  if digits.length = count ∧ digits.all Char.isDigit then
    some (Text.Digit.number (digits.map fun c ↦ c.toNat - '0'.toNat), cs.drop count)
  else none

/-- Number of weeks of a year; weeks belong to the year of their Thursday. -/
def weeksIn (firstWeekday : Nat) (leap : Bool) : Nat :=
  if firstWeekday = 3 ∨ (firstWeekday = 2 ∧ leap) then 53 else 52

/-- The date of a day of the week, Monday being one, in a week of a year. -/
def ofWeek? (year week day : Nat) : Option Date := do
  let newYear ← of? year 1 1
  if week < 1 ∨ weeksIn newYear.weekday (isLeap year) < week ∨ day < 1 ∨ 7 < day then none
  let monday : Int :=
    (newYear.ordinal : Int) - newYear.weekday + (if 3 < newYear.weekday then 7 else 0)
  ofOrdinal? (monday + 7 * (week - 1) + (day - 1))

/-- A hyphen if the parts are separated. -/
def hyphen? (separated : Bool) (cs : List Char) : Option (List Char) :=
  if separated then
    match cs with
    | '-' :: rest => some rest
    | _ => none
  else some cs

/-- Week and day behind the letter W. -/
def weekPart? (year : Nat) (separated : Bool) (cs : List Char) : Option Date := do
  let (week, cs) ← figures? 2 cs
  if cs.isEmpty then ofWeek? year week 1
  else
    let (day, _) ← figures? 1 (← hyphen? separated cs)
    ofWeek? year week day

def monthPart? (year : Nat) (separated : Bool) (cs : List Char) : Option Date := do
  let (month, cs) ← figures? 2 cs
  let (day, _) ← figures? 2 (← hyphen? separated cs)
  of? year month day

def ofIsoChars? (cs : List Char) : Option Date := do
  let (year, cs) ← figures? 4 cs
  let separated := cs.head? == some '-'
  match if separated then cs.drop 1 else cs with
  | 'W' :: cs => weekPart? year separated cs
  | cs => monthPart? year separated cs

/-- Sizes that a date text may have, in bytes. -/
def isoSizes : List Nat := [7, 8, 10]

/-- The date that a text writes in figures. -/
def ofIso? (s : String) : Option Date :=
  if isoSizes.contains s.utf8ByteSize then ofIsoChars? s.toList else none

end ReceiptRules.Date
