/-!
# Blanks, pieces and order of texts

The blank characters of Unicode together with the separator controls, and the removal of blanks
around a text: inner blanks stay, and a trimmed text is not changed by trimming it again. Occurrence
of one text in another, and the pieces of a text between the places where a separator occurs, found
from left to right without overlap. Lists of texts in ascending order without repetition, compared
character by character.
-/

/-! ## Blanks -/

namespace ReceiptRules.Text.Blank

def codes : List Nat := [
  0x09, 0x0a, 0x0b, 0x0c, 0x0d, 0x1c, 0x1d, 0x1e, 0x1f, 0x20, 0x85, 0xa0, 0x1680, 0x2000, 0x2001,
  0x2002, 0x2003, 0x2004, 0x2005, 0x2006, 0x2007, 0x2008, 0x2009, 0x200a, 0x2028, 0x2029, 0x202f,
  0x205f, 0x3000]

def isBlank (c : Char) : Bool := codes.contains c.toNat

/-- A blank of the first 128 characters, the separator controls apart. -/
def isAsciiBlank (c : Char) : Bool := c == ' ' || (0x09 ≤ c.toNat && c.toNat ≤ 0x0d)

def trimStart (cs : List Char) : List Char := cs.dropWhile isBlank

def trimEnd (cs : List Char) : List Char := (cs.reverse.dropWhile isBlank).reverse

def trimChars (cs : List Char) : List Char := trimEnd (trimStart cs)

/-- The text without the blanks around it. -/
def trim (s : String) : String := String.ofList (trimChars s.toList)

@[simp] theorem toList_trim (s : String) : (trim s).toList = trimChars s.toList := by
  simp [trim]

end ReceiptRules.Text.Blank

/-! ## Searching and splitting -/

namespace ReceiptRules.Text.Search

/-- Whether the needle stands somewhere in the text. -/
def occurs (needle : List Char) : List Char → Bool
  | [] => needle.isEmpty
  | c :: rest => needle.isPrefixOf (c :: rest) || occurs needle rest

/-- Whether the first text stands somewhere in the second. -/
def occursIn (needle text : String) : Bool := occurs needle.toList text.toList

/-- The pieces after the given number of characters has been skipped. -/
def pieces (separator : List Char) : Nat → List Char → List (List Char)
  | _, [] => [[]]
  | skip + 1, _ :: rest => pieces separator skip rest
  | 0, c :: rest =>
    if separator.isPrefixOf (c :: rest) then [] :: pieces separator (separator.length - 1) rest
    else (pieces separator 0 rest).modifyHead (c :: ·)

/-- The pieces of a text between the occurrences of a separator. -/
def split (separator text : String) : List String :=
  (pieces separator.toList 0 text.toList).map String.ofList

theorem occurs_iff_infix {needle text : List Char} :
    occurs needle text = true ↔ needle <:+: text := by
  induction text with
  | nil => simp [occurs]
  | cons c rest ih => simp [occurs, ih, List.infix_cons_iff]

@[simp] theorem occurs_nil (text : List Char) : occurs [] text = true :=
  occurs_iff_infix.mpr (List.nil_infix)

end ReceiptRules.Text.Search

/-! ## Ordered texts -/

namespace ReceiptRules.Text.Ordered

/-- Puts a text into an ordered list without repeating it. -/
def insert (s : String) : List String → List String
  | [] => [s]
  | t :: rest =>
    if s < t then s :: t :: rest
    else if s = t then t :: rest
    else t :: insert s rest

/-- The texts of a list, each once and in order. -/
def ofList (texts : List String) : List String := texts.foldl (fun known s ↦ insert s known) []

end ReceiptRules.Text.Ordered
