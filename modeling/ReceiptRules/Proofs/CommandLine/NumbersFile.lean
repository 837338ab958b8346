import ReceiptRules.CommandLine.Classify
import ReceiptRules.CommandLine.Files
import ReceiptRules.Proofs.Except
import ReceiptRules.Proofs.Json.ControlCharacters
import ReceiptRules.Proofs.Lookup
import ReceiptRules.Proofs.Text.Ordered

/-!
# The file of archive numbers

Writing a file changes that file and no other, and what is read is what was written as long as no
carriage returns are in it.

What the file of archive numbers holds depends on its own text alone. The numbers that are written
down are those that are read the next time, each of them once and in order, and the file of a store
holds none.
-/

namespace ReceiptRules.Files

variable {files files' : Files} {p q : Path} {text : String}

theorem lookup_put (p q : Path) (text : String) (entries : List (Path × String)) :
    (put p text entries).lookup q = if q = p then some text else entries.lookup q := by
  refine List.lookup_place (put p text) rfl (fun k _ _ ↦ ?_) q entries
  by_cases hk : k = p
  · rw [put, if_pos hk, if_pos hk, hk]
  · rw [put, if_neg hk, if_neg hk]

theorem find?_of_write (h : files.write p text = .ok files') (q : Path) :
    files'.find? q = if q = p then some text else files.find? q := by
  simp only [write] at h
  split at h
  · cases h
  · cases h
    exact lookup_put p q text files.entries

theorem isThere_of_find? (h : files.find? p = some text) : files.isThere p = true := by
  rw [isThere, h]
  rfl

theorem find?_eq_none_of_not_isThere (h : ¬ files.isThere p = true) : files.find? p = none := by
  rw [isThere, Bool.or_eq_true, not_or, Bool.not_eq_true, Option.isSome_eq_false_iff,
    Option.isNone_iff_eq_none] at h
  exact h.1

theorem lineFeeds_of_notMem {cs : List Char} (h : '\r' ∉ cs) : lineFeeds cs = cs := by
  induction cs with
  | nil => rfl
  | cons c rest ih =>
    rw [List.mem_cons, not_or] at h
    have hc : c ≠ '\r' := Ne.symm h.1
    rw [lineFeeds, ih h.2] <;> simp [hc]

theorem read_of_find? (h : files.find? p = some text) (htext : '\r' ∉ text.toList) :
    files.read p = .ok text := by
  simp only [read, h, lineFeeds_of_notMem htext, String.ofList_toList]

end ReceiptRules.Files

namespace ReceiptRules.CommandLine.Classify

open Text

variable {files files' : Files} {p : Path} {text : String} {v : Value}

/-! ## Reading a file -/

theorem readJson_write {style : Json.Style} (hv : Json.Plain v)
    (h : files.find? p = some (Json.write style v)) : readJson files p = .ok v := by
  have htext : '\r' ∉ (Json.write style v).toList := by
    rw [Json.write, String.toList_ofList]
    intro hmem
    exact absurd (hv.kept style 0 _ hmem) (by decide)
  rw [readJson, Files.read_of_find? h htext]
  simp only [bind, Except.bind, Json.read_write style hv]
  rfl

/-- The archive numbers that a document holds: a list, or an object with one. -/
def listedIn (v : Value) : Except Failure (List String) := do
  let listed ← match v with
    | .object _ => v.entryOr "archive_numbers" (.list [])
    | v => .ok v
  return (← listed.items).map Value.asText

theorem readNumbers_eq (files : Files) (p : Path) :
    readNumbers files (some p) =
      if files.isThere p = true then readJson files p >>= listedIn else .ok [] := by
  by_cases h : files.isThere p = true
  · simp only [readNumbers, Option.filter, h, if_true]
    rfl
  · simp only [readNumbers, Option.filter, if_neg h]

theorem readNumbers_of_readJson (h : readJson files p = .ok v)
    (hfind : files.find? p = some text) : readNumbers files (some p) = listedIn v := by
  rw [readNumbers_eq, if_pos (Files.isThere_of_find? hfind), h]
  rfl

/-- The archive numbers in the file at a path: none where there is no file, and none in a file that
cannot be read. -/
def held (files : Files) (p : Path) : List String :=
  (readNumbers files (some p)).toOption.getD []

theorem held_of_readNumbers {numbers : List String}
    (h : readNumbers files (some p) = .ok numbers) : held files p = numbers := by
  rw [held, h]
  rfl

theorem held_of_find?_eq_none (h : files.find? p = none) : held files p = [] := by
  rw [held, readNumbers_eq]
  split
  · rw [readJson, Files.read, h]
    rfl
  · rfl

/-- Files that agree at the path hold the same numbers there. -/
theorem held_congr (h : files.find? p = files'.find? p) : held files p = held files' p := by
  cases hfind : files'.find? p with
  | none => rw [held_of_find?_eq_none hfind, held_of_find?_eq_none (h.trans hfind)]
  | some text =>
    have hread : readJson files p = readJson files' p := by
      rw [readJson, readJson, Files.read, Files.read, h, hfind]
    rw [held, held, readNumbers_eq, readNumbers_eq, if_pos (Files.isThere_of_find? hfind),
      if_pos (Files.isThere_of_find? (h.trans hfind)), hread]

/-! ## What is written down -/

theorem map_asText_text (texts : List String) :
    (texts.map Value.text).map Value.asText = texts := by
  rw [List.map_map]
  exact List.map_id _

/-- Numbers that are written down are read back. -/
theorem readNumbers_numbersText {numbers : List String}
    (h : files.find? p = some (numbersText numbers)) :
    readNumbers files (some p) = .ok (Ordered.ofList numbers) := by
  have hplain : Json.Plain (.object [("archive_numbers",
      .list ((Ordered.ofList numbers).map .text))]) := by
    refine .object _ (by simp) (List.forall_mem_singleton.mpr (.list _ ?_))
    exact List.forall_mem_map.mpr fun s _ ↦ .text s
  rw [readNumbers_of_readJson (readJson_write hplain h) h]
  simp only [listedIn, Value.entryOr, List.lookup_cons_self, Option.getD_some, Value.items,
    Value.items?, bind, Except.bind, pure, Except.pure, map_asText_text]

/-- The file of a store holds no numbers. -/
theorem held_saved {store : Store} (hstore : Json.Plain store.toDocument)
    (h : files.find? p = some store.saved) : held files p = [] := by
  apply held_of_readNumbers
  rw [readNumbers_of_readJson (readJson_write hstore h) h]
  rfl

end ReceiptRules.CommandLine.Classify
