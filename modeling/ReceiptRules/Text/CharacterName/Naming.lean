/-!
# Ways to name characters

Most characters have names of their own, which are listed; others are named by a rule: by a number, by
their code, by the dots or by the sounds that they stand for. Case makes a difference in the names of
unified ideographs and of Hangul syllables alone.
-/

namespace ReceiptRules.Text.CharacterName

/-- Characters whose names begin alike. -/
structure Family where
  beginning : String
  /-- First codes of runs, and what stands behind the beginning in the names of a run, with semicolons
  between. Nothing between them stands for a character that is no member. -/
  runs : List (Nat × String)

namespace Family

/-- The place of an ending among those of a run. -/
def placeOf? (ending : List Char) (endings : String) : Option Nat :=
  if ending.isEmpty then none else (endings.toList.splitOn ';').idxOf? ending

def find? (f : Family) (name : List Char) : Option Nat := do
  let ending ← f.beginning.toList.isPrefixOf? name
  f.runs.findSome? fun (first, endings) ↦ (placeOf? ending endings).map (first + ·)

end Family

/-- Characters in a row that are named by a rule. -/
structure Row where
  first : Nat
  size : Nat
  /-- The name of the character at a place, the first one being at place zero. -/
  nameAt : Nat → String

def Row.find? (r : Row) (name : String) : Option Nat :=
  ((List.range r.size).find? fun n ↦ r.nameAt n == name).map (r.first + ·)

/-- Characters that are named by their code. -/
def byCode (beginning : String) (first last : Nat) : Row where
  first := first
  size := last + 1 - first
  nameAt n := beginning ++ (String.ofList (Nat.toDigits 16 (first + n))).toUpper

/-- Characters that are numbered, from some number on and in at least so many digits. -/
def byNumber (beginning : String) (first size number digits : Nat) : Row where
  first := first
  size := size
  nameAt n := beginning ++ String.ofList ((Nat.toDigits 10 (number + n)).leftpad digits '0')

/-- Patterns of eight dots, which are the bits of the place. -/
def dots : Row where
  first := 0x2800
  size := 256
  nameAt
    | 0 => "BRAILLE PATTERN BLANK"
    | n => "BRAILLE PATTERN DOTS-" ++
      String.join (((List.range 8).filter n.testBit).map fun bit ↦ toString (bit + 1))

/-- All rows but that of the syllables. -/
def rows : List Row := [
  dots, byNumber "TANGUT COMPONENT-" 0x18800 768 1 3,
  byNumber "VARIATION SELECTOR-" 0xfe00 16 1 1, byNumber "VARIATION SELECTOR-" 0xe0100 240 17 1,
  byNumber "VS" 0xfe00 16 1 1, byNumber "VS" 0xe0100 240 17 1,
  byCode "CJK COMPATIBILITY IDEOGRAPH-" 0xf900 0xfa6d,
  byCode "CJK COMPATIBILITY IDEOGRAPH-" 0xfa70 0xfad9,
  byCode "CJK COMPATIBILITY IDEOGRAPH-" 0x2f800 0x2fa1d,
  byCode "KHITAN SMALL SCRIPT CHARACTER-" 0x18b00 0x18cd5,
  byCode "NUSHU CHARACTER-" 0x1b170 0x1b2fb]

/-! ## Syllables -/

def leadingSounds : List String := [
  "G", "GG", "N", "D", "DD", "R", "M", "B", "BB", "S", "SS", "", "J", "JJ", "C", "K", "T", "P", "H"]

def vowels : List String := [
  "A", "AE", "YA", "YAE", "EO", "E", "YEO", "YE", "O", "WA", "WAE", "OE", "YO", "U", "WEO", "WE",
  "WI", "YU", "EU", "YI", "I"]

def trailingSounds : List String := [
  "", "G", "GG", "GS", "N", "NJ", "NH", "D", "L", "LG", "LM", "LB", "LS", "LT", "LP", "LH", "M", "B",
  "BS", "S", "SS", "NG", "J", "C", "K", "T", "P", "H"]

/-- The sounds of all syllables, in the order of their codes. -/
def syllableSounds : List String :=
  leadingSounds.flatMap fun l ↦ vowels.flatMap fun v ↦ trailingSounds.map fun t ↦ l ++ v ++ t

def syllable? (name : String) : Option Nat := do
  let sounds ← "HANGUL SYLLABLE ".toList.isPrefixOf? name.toList
  let place ← syllableSounds.idxOf? (String.ofList sounds)
  return 0xac00 + place

/-! ## Ideographs -/

/-- Ranges of ideographs that are named by their code. -/
def ideographs : List (Nat × Nat) := [
  (0x3400, 0x4dbf), (0x4e00, 0x9fff), (0x20000, 0x2a6df), (0x2a700, 0x2b738), (0x2b740, 0x2b81d),
  (0x2b820, 0x2cea1), (0x2ceb0, 0x2ebe0), (0x30000, 0x3134a)]

def isHexDigit (c : Char) : Bool := c.isDigit || ('A' ≤ c && c ≤ 'F')

def hexValue (c : Char) : Nat := if c.isDigit then c.toNat - 48 else c.toNat - 55

/-- The ideograph whose code is written behind the mark, in four or five digits. -/
def ideograph? (name : String) : Option Nat := do
  let digits ← "CJK UNIFIED IDEOGRAPH-".toList.isPrefixOf? name.toList
  let code := digits.foldl (fun n c ↦ 16 * n + hexValue c) 0
  if digits.all isHexDigit && (digits.length == 4 || digits.length == 5) &&
      ideographs.any fun (low, high) ↦ low ≤ code && code ≤ high then
    return code
  else none

end ReceiptRules.Text.CharacterName
