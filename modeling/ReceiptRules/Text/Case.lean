import ReceiptRules.Text.CaseTable

/-!
# Letter case

Single-character case maps, the upper-case spelling of a text, and equality that ignores case.
The character maps take the first character where the full spelling has several.
-/

namespace ReceiptRules.Text.Case

private def shifted (runs : List CaseTable.Run) (c : Char) : Char :=
  match runs.find? fun run ↦ run.covers c.toNat with
  | some run => Char.ofNat (run.apply c.toNat)
  | none => c

/-- The small letter of a character; the dotted capital i loses its dot mark. -/
def lower (c : Char) : Char :=
  if c.toNat < 128 then c.toLower
  else if c == 'İ' then 'i'
  else shifted CaseTable.lowerRuns c

/-- All characters of the capital spelling of one character. -/
def upperSpelling (c : Char) : List Char :=
  if c.toNat < 128 then [c.toUpper]
  else match CaseTable.longUpper.lookup c.toNat with
    | some codes => codes.map Char.ofNat
    | none => [shifted CaseTable.upperRuns c]

def upper (c : Char) : Char := (upperSpelling c).headD c

/-- The text in capitals. -/
def upperText (s : String) : String := String.ofList (s.toList.flatMap upperSpelling)

/-- All characters of the small spelling of one character. -/
def lowerSpelling (c : Char) : List Char := if c == 'İ' then ['i', '\u0307'] else [lower c]

/-- The text in small letters. -/
def lowerText (s : String) : String := String.ofList (s.toList.flatMap lowerSpelling)

/-- Whether case makes a difference to the character at all. -/
def isCased (c : Char) : Bool := c != lower c || c != upper c

/-- Other small letters that share a capital with a small letter. -/
def peers (c : Char) : List Char :=
  ((CaseTable.lowerPeers.lookup c.toNat).getD []).map Char.ofNat

/-- Characters whose small letter is the given one. -/
def capitals (c : Char) : List Char :=
  if c == 'i' then ['I', 'İ']
  else
    (CaseTable.lowerRuns.filterMap fun run ↦
      let n := ((c.toNat : Int) - run.shift).toNat
      if run.covers n then some (Char.ofNat n) else none)

/-- All characters that are the same letter as a small letter when case is ignored. -/
def variants (small : Char) : List Char :=
  (small :: peers small).flatMap fun c ↦ (if lower c == c then [c] else []) ++ capitals c

/-- Whether two characters are the same letter when case is ignored. -/
def same (a b : Char) : Bool :=
  let small := lower a
  small == lower b || (peers small).contains (lower b)

/-- Equality that ignores case among the first 128 characters only. -/
def sameAscii (a b : Char) : Bool := a.toLower == b.toLower

end ReceiptRules.Text.Case
