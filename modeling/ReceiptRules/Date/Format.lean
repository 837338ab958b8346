import ReceiptRules.Text.Search

/-!
# Date formats

A date format is a text with directives such as `%Y`. It is read into a list of items: characters
that stand for themselves, runs of blanks, and fields. A field may occur once; a second occurrence
is reported with its place in the spelled-out format, where every field is written as a pattern.
-/

namespace ReceiptRules.Date.Format

inductive Directive where
  | day | microsecond | hour | hourOfHalf | isoYear | dayOfYear | month | minute | second
  | weekFromSunday | weekFromMonday | weekdayNumber | isoWeekday | isoWeek | shortYear | year
  | offset | weekdayName | weekdayShort | monthName | monthShort | halfOfDay | zone
deriving DecidableEq, Repr

namespace Directive

def all : List Directive := [
  day, microsecond, hour, hourOfHalf, isoYear, dayOfYear, month, minute, second, weekFromSunday,
  weekFromMonday, weekdayNumber, isoWeekday, isoWeek, shortYear, year, offset, weekdayName,
  weekdayShort, monthName, monthShort, halfOfDay, zone]

/-- The character after the percent sign. -/
def letter : Directive → Char
  | day => 'd' | microsecond => 'f' | hour => 'H' | hourOfHalf => 'I' | isoYear => 'G'
  | dayOfYear => 'j' | month => 'm' | minute => 'M' | second => 'S' | weekFromSunday => 'U'
  | weekFromMonday => 'W' | weekdayNumber => 'w' | isoWeekday => 'u' | isoWeek => 'V'
  | shortYear => 'y' | year => 'Y' | offset => 'z' | weekdayName => 'A' | weekdayShort => 'a'
  | monthName => 'B' | monthShort => 'b' | halfOfDay => 'p' | zone => 'Z'

def ofLetter? (c : Char) : Option Directive := all.find? fun d ↦ d.letter == c

/-- What the field matches, written as a pattern. -/
def pattern : Directive → String
  | day => "3[0-1]|[1-2]\\d|0[1-9]|[1-9]| [1-9]"
  | microsecond => "[0-9]\x7b1,6\x7d"
  | hour => "2[0-3]|[0-1]\\d|\\d"
  | hourOfHalf => "1[0-2]|0[1-9]|[1-9]"
  | isoYear => "\\d\\d\\d\\d"
  | dayOfYear => "36[0-6]|3[0-5]\\d|[1-2]\\d\\d|0[1-9]\\d|00[1-9]|[1-9]\\d|0[1-9]|[1-9]"
  | month => "1[0-2]|0[1-9]|[1-9]"
  | minute => "[0-5]\\d|\\d"
  | second => "6[0-1]|[0-5]\\d|\\d"
  | weekFromSunday => "5[0-3]|[0-4]\\d|\\d"
  | weekFromMonday => "5[0-3]|[0-4]\\d|\\d"
  | weekdayNumber => "[0-6]"
  | isoWeekday => "[1-7]"
  | isoWeek => "5[0-3]|0[1-9]|[1-4]\\d|\\d"
  | shortYear => "\\d\\d"
  | year => "\\d\\d\\d\\d"
  | offset => "[+-]\\d\\d:?[0-5]\\d(:?[0-5]\\d(\\.\\d\x7b1,6\x7d)?)?|(?-i:Z)"
  | weekdayName => "wednesday|thursday|saturday|tuesday|monday|friday|sunday"
  | weekdayShort => "mon|tue|wed|thu|fri|sat|sun"
  | monthName =>
    "september|february|november|december|january|october|august|march|april|june|july|may"
  | monthShort => "jan|feb|mar|apr|may|jun|jul|aug|sep|oct|nov|dec"
  | halfOfDay => "am|pm"
  | zone => "utc|gmt"

/-- Length of the field in the spelled-out format, with its brackets and its name. -/
def spelledWidth (d : Directive) : Nat := d.pattern.length + 7

/-- Bracketed groups of the spelled-out field: its own, and two more inside an offset. -/
def groups : Directive → Nat
  | offset => 3
  | _ => 1

end Directive

inductive Item where
  | literal (c : Char)
  | blanks
  | field (directive : Directive)
deriving DecidableEq, Repr

/-- Characters that the spelled-out format marks as standing for themselves. -/
def markedCharacters : List Char :=
  ['\\', '.', '^', '$', '*', '+', '?', '(', ')', '\x7b', '\x7d', '[', ']', '|']

def Item.spelledWidth : Item → Nat
  | literal c => if markedCharacters.contains c then 2 else 1
  | blanks => 3
  | field d => d.spelledWidth

open Directive in
/-- Directives that stand for several items. -/
def composite? : Char → Option (List Item)
  | '%' => some [.literal '%']
  | 'c' => some [
      .field weekdayShort, .blanks, .field monthShort, .blanks, .field day, .blanks, .field hour,
      .literal ':', .field minute, .literal ':', .field second, .blanks, .field year]
  | 'x' => some [.field month, .literal '/', .field day, .literal '/', .field shortYear]
  | 'X' => some [.field hour, .literal ':', .field minute, .literal ':', .field second]
  | _ => none

/-- The items of a directive letter. -/
def directiveItems? (c : Char) : Option (List Item) :=
  match Directive.ofLetter? c with
  | some d => some [.field d]
  | none => composite? c

/-- The items of a format text; no value if a percent sign is followed by no known letter. The flag
says whether the character before was a blank. -/
def itemsOf? : (afterBlank : Bool) → List Char → Option (List Item)
  | _, [] => some []
  | _, '%' :: c :: rest => do
    let items ← directiveItems? c
    return items ++ (← itemsOf? false rest)
  | _, '%' :: [] => none
  | afterBlank, c :: rest =>
    if Text.Blank.isBlank c then
      if afterBlank then itemsOf? true rest else (Item.blanks :: ·) <$> itemsOf? true rest
    else (Item.literal c :: ·) <$> itemsOf? false rest

inductive Error where
  | unknownDirective
  | repeatedField (letter : Char) (group earlier position : Nat)
deriving DecidableEq, Repr

def Error.message : Error → String
  | unknownDirective => "unknown directive"
  | repeatedField letter group earlier position =>
    s!"redefinition of group name '{letter}' as group {group}; was group {earlier}" ++
      s!" at position {position}"

/-- Looks for a repeated field. Keeps the fields seen with their group numbers, the number of groups
so far and the place in the spelled-out format. -/
def checkRepeats (seen : List (Directive × Nat)) (groups place : Nat) :
    List Item → Except Error Unit
  | [] => .ok ()
  | .field d :: rest =>
    match seen.lookup d with
    | some earlier => .error (.repeatedField d.letter (groups + 1) earlier (place + 4))
    | none =>
      checkRepeats ((d, groups + 1) :: seen) (groups + d.groups) (place + d.spelledWidth) rest
  | item :: rest => checkRepeats seen groups (place + item.spelledWidth) rest

/-- Reads a format text. -/
def read (s : String) : Except Error (List Item) :=
  match itemsOf? false s.toList with
  | none => .error .unknownDirective
  | some items => do
    checkRepeats [] 0 0 items
    return items

end ReceiptRules.Date.Format
