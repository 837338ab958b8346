import ReceiptRules.Date
import ReceiptRules.Date.Format
import ReceiptRules.Text.Case

/-!
# Reading dates by a format

The items of a format are matched in order from the start of the text. A field offers its
alternatives in a fixed order and the first combination that matches every item is taken; the text
must then be used up. The fields found are put together to a date: by month and day, by the day of
the year, or by a week and a day of the week. Parts that a format leaves out are those of the first
of January 1900.
-/

namespace ReceiptRules.Date

open Text Format

/-! ## Matching -/

/-- What a place of a field admits. -/
inductive Place where
  | digit
  | range (low high : Char)
  | oneOf (choices : List Char)
  | letter (c : Char)
  | exactly (c : Char)

def Place.admits : Place → Char → Bool
  | digit, c => Digit.isDigit c
  | range low high, c => low ≤ c && c ≤ high
  | oneOf choices, c => choices.contains c
  | letter l, c => Case.same l c
  | exactly l, c => c == l

def names (words : List String) : List (List Place) := words.map fun w ↦ w.toList.map .letter

def weekdayNames : List String :=
  ["monday", "tuesday", "wednesday", "thursday", "friday", "saturday", "sunday"]

def weekdayShortNames : List String := ["mon", "tue", "wed", "thu", "fri", "sat", "sun"]

def monthNames : List String :=
  ["january", "february", "march", "april", "may", "june", "july", "august", "september",
    "october", "november", "december"]

def monthShortNames : List String :=
  ["jan", "feb", "mar", "apr", "may", "jun", "jul", "aug", "sep", "oct", "nov", "dec"]

/-- Seconds of an offset, with or without a colon in front and with up to six decimals behind. -/
def offsetSeconds : List (List Place) :=
  let seconds : List Place := [.range '0' '5', .digit]
  let fractions := [6, 5, 4, 3, 2, 1].map fun n ↦ .exactly '.' :: List.replicate n Place.digit
  let tails := (fractions ++ [[]]).map (seconds ++ ·)
  tails.map (.exactly ':' :: ·) ++ tails ++ [[]]

/-- Offsets from universal time. -/
def offsets : List (List Place) :=
  let hours : List Place := [.oneOf ['+', '-'], .digit, .digit]
  let minutes : List Place := [.range '0' '5', .digit]
  (offsetSeconds.map fun s ↦ hours ++ .exactly ':' :: minutes ++ s) ++
    (offsetSeconds.map fun s ↦ hours ++ minutes ++ s) ++ [[.exactly 'Z']]

/-- The alternatives of a field, most wanted first. -/
def alternatives : Directive → List (List Place)
  | .day => [
      [.exactly '3', .range '0' '1'], [.range '1' '2', .digit], [.exactly '0', .range '1' '9'],
      [.range '1' '9'], [.exactly ' ', .range '1' '9']]
  | .microsecond => [6, 5, 4, 3, 2, 1].map fun n ↦ List.replicate n (.range '0' '9')
  | .hour => [[.exactly '2', .range '0' '3'], [.range '0' '1', .digit], [.digit]]
  | .hourOfHalf | .month =>
    [[.exactly '1', .range '0' '2'], [.exactly '0', .range '1' '9'], [.range '1' '9']]
  | .isoYear | .year => [[.digit, .digit, .digit, .digit]]
  | .dayOfYear => [
      [.exactly '3', .exactly '6', .range '0' '6'], [.exactly '3', .range '0' '5', .digit],
      [.range '1' '2', .digit, .digit], [.exactly '0', .range '1' '9', .digit],
      [.exactly '0', .exactly '0', .range '1' '9'], [.range '1' '9', .digit],
      [.exactly '0', .range '1' '9'], [.range '1' '9']]
  | .minute => [[.range '0' '5', .digit], [.digit]]
  | .second => [[.exactly '6', .range '0' '1'], [.range '0' '5', .digit], [.digit]]
  | .weekFromSunday | .weekFromMonday =>
    [[.exactly '5', .range '0' '3'], [.range '0' '4', .digit], [.digit]]
  | .weekdayNumber => [[.range '0' '6']]
  | .isoWeekday => [[.range '1' '7']]
  | .isoWeek =>
    [[.exactly '5', .range '0' '3'], [.exactly '0', .range '1' '9'], [.range '1' '4', .digit],
      [.digit]]
  | .shortYear => [[.digit, .digit]]
  | .offset => offsets
  | .weekdayName => names weekdayNames
  | .weekdayShort => names weekdayShortNames
  | .monthName => names monthNames
  | .monthShort => names monthShortNames
  | .halfOfDay => names ["am", "pm"]
  | .zone => names ["utc", "gmt"]

/-- The characters at the start of the text that fill the places, and the rest. -/
def fill : List Place → List Char → Option (List Char × List Char)
  | [], cs => some ([], cs)
  | _ :: _, [] => none
  | p :: ps, c :: cs =>
    if p.admits c then (fill ps cs).map fun (taken, rest) ↦ (c :: taken, rest) else none

/-- A field found in a text. -/
abbrev Found := Directive × List Char

/-- Runs of blanks at the start of the text, longest first, each with what follows it. -/
def blankRuns : List Char → List (List Char)
  | c :: rest => if Blank.isBlank c then blankRuns rest ++ [rest] else []
  | [] => []

/-- The first way to match the items from the start of the text, with the text left over. -/
def matchItems : List Item → List Char → Option (List Found × List Char)
  | [], cs => some ([], cs)
  | .literal l :: items, cs =>
    match cs with
    | c :: rest => if Case.same l c then matchItems items rest else none
    | [] => none
  | .blanks :: items, cs => (blankRuns cs).findSome? (matchItems items)
  | .field d :: items, cs =>
    (alternatives d).findSome? fun places ↦
      (fill places cs).bind fun (taken, rest) ↦
        (matchItems items rest).map fun (found, left) ↦ ((d, taken) :: found, left)

/-! ## From fields to a date -/

structure Parts where
  year : Option Nat := none
  isoYear : Option Nat := none
  month : Nat := 1
  day : Nat := 1
  second : Nat := 0
  weekday : Option Nat := none
  dayOfYear : Option Nat := none
  week : Option Nat := none
  weekFromMonday : Bool := false
  isoWeek : Option Nat := none

def numberOf (cs : List Char) : Nat := Digit.number (cs.filterMap Digit.value?)

def indexOf? (words : List String) (cs : List Char) : Option Nat :=
  words.findIdx? (· == String.ofList (cs.map Char.toLower))

/-- Offsets write colons everywhere or nowhere, and stay below a day. -/
def offsetAllowed (cs : List Char) : Bool :=
  let digits := (cs.drop 1).takeWhile (· != '.') |>.filterMap Digit.value?
  let colons := cs.count ':'
  cs == ['Z'] ||
    (Digit.number (digits.take 2) < 24 && (colons == 0 || colons + 1 == digits.length / 2))

def Parts.add (p : Parts) : Found → Option Parts
  | (.shortYear, cs) =>
    let n := numberOf cs
    some { p with year := some (if n ≤ 68 then n + 2000 else n + 1900) }
  | (.year, cs) => some { p with year := some (numberOf cs) }
  | (.isoYear, cs) => some { p with isoYear := some (numberOf cs) }
  | (.month, cs) => some { p with month := numberOf cs }
  | (.monthName, cs) => (indexOf? monthNames cs).map fun i ↦ { p with month := i + 1 }
  | (.monthShort, cs) => (indexOf? monthShortNames cs).map fun i ↦ { p with month := i + 1 }
  | (.day, cs) => some { p with day := numberOf cs }
  | (.second, cs) => some { p with second := numberOf cs }
  | (.weekdayName, cs) => (indexOf? weekdayNames cs).map fun i ↦ { p with weekday := some i }
  | (.weekdayShort, cs) =>
    (indexOf? weekdayShortNames cs).map fun i ↦ { p with weekday := some i }
  | (.weekdayNumber, cs) => some { p with weekday := some ((numberOf cs + 6) % 7) }
  | (.isoWeekday, cs) => some { p with weekday := some (numberOf cs - 1) }
  | (.dayOfYear, cs) => some { p with dayOfYear := some (numberOf cs) }
  | (.weekFromSunday, cs) => some { p with week := some (numberOf cs), weekFromMonday := false }
  | (.weekFromMonday, cs) => some { p with week := some (numberOf cs), weekFromMonday := true }
  | (.isoWeek, cs) => some { p with isoWeek := some (numberOf cs) }
  | (.offset, cs) => if offsetAllowed cs then some p else none
  | (_, _) => some p

/-- Day of the year from a week of the year and a day of that week. Days before the first full week
make up week zero. -/
def dayOfWeekOfYear (year week weekday : Nat) (fromMonday : Bool) : Option Int :=
  (of? year 1 1).map fun newYear ↦
    let shift := if fromMonday then 0 else 1
    let first := (newYear.weekday + shift) % 7
    let wanted := (weekday + shift) % 7
    let full := (7 - first) % 7 + 7 * (week - 1)
    if week == 0 then 1 + (wanted : Int) - first else 1 + (full : Int) + wanted

/-- Year and day of the year from an ISO year, week and weekday; week 1 holds the fourth of January.
Monday is day zero. -/
def dayOfIsoWeek (isoYear week weekday : Nat) : Option (Nat × Int) :=
  (of? isoYear 1 4).bind fun fourth ↦
    let n : Int := 7 * week + (weekday + 1) - (fourth.weekday + 4)
    if n < 1 then
      (of? isoYear 1 1).bind fun newYear ↦
        (of? (isoYear - 1) 1 1).map fun before ↦
          (isoYear - 1, n + newYear.ordinal - before.ordinal)
    else some (isoYear, n)

/-- A day of the year that lies before the new year belongs to the year before. -/
def fromYearBefore (year : Nat) (n : Int) : Nat × Int :=
  if n ≤ 0 then (year - 1, n + daysInYear (year - 1)) else (year, n)

/-- Whether ISO parts occur only together and not beside parts of the other kind. -/
def Parts.consistent (p : Parts) : Bool :=
  match p.isoYear with
  | some _ => p.dayOfYear.isNone && p.isoWeek.isSome && p.weekday.isSome
  | none => p.isoWeek.isNone

/-- Year and day of the year, where a week or a day of the year is given. -/
def Parts.yearDay (p : Parts) (year : Nat) : Option (Nat × Option Int) :=
  match p.dayOfYear, p.weekday with
  | some n, _ => some (year, some n)
  | none, none => some (year, none)
  | none, some weekday =>
    match p.week, p.isoYear, p.isoWeek with
    | some week, _, _ =>
      (dayOfWeekOfYear year week weekday p.weekFromMonday).map fun n ↦
        let (y, n) := fromYearBefore year n
        (y, some n)
    | none, some isoYear, some isoWeek =>
      (dayOfIsoWeek isoYear isoWeek weekday).map fun (y, n) ↦
        let (y, n) := fromYearBefore y n
        (y, some n)
    | none, _, _ => some (year, none)

/-- The date that the parts determine. Without a year, the 29th of February is looked up in a leap
year and then moved to 1900, where it exists no more. -/
def Parts.date? (p : Parts) : Option Date :=
  if !p.consistent || 60 ≤ p.second then none
  else
    let leapDay := p.year.isNone && p.month == 2 && p.day == 29
    let year := p.year.getD (if leapDay then 1904 else 1900)
    (p.yearDay year).bind fun (year, dayOfYear) ↦
      let found := match dayOfYear with
        | none => of? year p.month p.day
        | some n => (of? year 1 1).bind fun newYear ↦ ofOrdinal? (n - 1 + newYear.ordinal)
      found.bind fun d ↦ if leapDay then of? 1900 d.month d.day else some d

/-- Reads a whole text by the items of a format. -/
def readItems? (items : List Item) (cs : List Char) : Option Date :=
  match matchItems items cs with
  | some (found, []) => (found.foldlM Parts.add {}).bind Parts.date?
  | _ => none

/-- Reads a text by the first format of a list that fits it. Blanks around the text are dropped and
unknown directives make a format fit nothing. -/
def readChars? (formats : List String) (cs : List Char) : Except Format.Error (Option Date) :=
  match formats with
  | [] => .ok none
  | format :: others =>
    match Format.read format with
    | .error .unknownDirective => readChars? others cs
    | .error e => .error e
    | .ok items =>
      match readItems? items cs with
      | some d => .ok (some d)
      | none => readChars? others cs

def ofText? (formats : List String) (s : String) : Except Format.Error (Option Date) :=
  let cs := Blank.trimChars s.toList
  if cs.isEmpty then .ok none else readChars? formats cs

/-- Year, month and day with hyphens, with slashes, run together, and with their Chinese names. -/
def defaultFormats : List String := ["%Y-%m-%d", "%Y/%m/%d", "%Y%m%d", "%Y年%m月%d日"]

end ReceiptRules.Date
