import Mathlib.Data.List.Infix
import ReceiptRules.Pattern.Matcher

/-!
# Searching for words

A tree that spells a word matches at a spot exactly if the word comes next there, and alternatives
of such trees match if one of the words does, in whatever order they are tried. A search tries every
spot of the text, so that it finds the alternatives exactly if one of the words stands somewhere in
the text.
-/

namespace ReceiptRules.Pattern

variable {node : Node} {words : List (List Char)}

/-- The tree that spells a word, case and all. -/
def Node.ofWord (w : List Char) : Node := Node.sequence (w.map fun c ↦ .code {} false c.toNat)

/-! ## Matching -/

theorem codeMatches_toNat_iff {c d : Char} : codeMatches {} c.toNat d = true ↔ d = c := by
  simp [codeMatches, Char.toNat_inj]

theorem isSome_run_ofWord_iff {w : List Char} {s : Spot} :
    (run (.ofWord w) s some).isSome = true ↔ w <+: s.after := by
  induction w generalizing s with
  | nil => exact iff_of_true rfl List.nil_prefix
  | cons c w ih =>
    have hstep : run (.ofWord (c :: w)) s some =
        single (fun d ↦ codeMatches {} c.toNat d != false) s fun t ↦ run (.ofWord w) t some := rfl
    rw [hstep, single, Spot.step?]
    cases hafter : s.after with
    | nil => simp
    | cons d rest =>
      simp only [Bool.bne_false, codeMatches_toNat_iff, List.cons_prefix_cons]
      split
      · next hd => rw [ih, and_iff_right hd.symm]
      · next hd => exact iff_of_false (by simp) fun h ↦ hd h.1.symm

/-- One of the words has to come next. -/
theorem isSome_run_alternatives_iff (hwords : words ≠ []) (s : Spot) :
    (run (.alternatives (words.map .ofWord)) s some).isSome = true ↔
      ∃ w ∈ words, w <+: s.after := by
  induction words with
  | nil => exact absurd rfl hwords
  | cons w rest ih =>
    cases rest with
    | nil =>
      rw [List.exists_mem_cons_iff, ← isSome_run_ofWord_iff]
      simp [Node.alternatives]
    | cons w' rest =>
      have hfirst : run (.alternatives ((w :: w' :: rest).map .ofWord)) s some =
          (run (.ofWord w) s some).or (run (.alternatives ((w' :: rest).map .ofWord)) s some) := rfl
      rw [hfirst, Option.isSome_or, Bool.or_eq_true, isSome_run_ofWord_iff,
        ih (List.cons_ne_nil _ _)]
      simp only [List.mem_cons, exists_eq_or_imp]

/-! ## Searching -/

/-- A search looks at what is left of the text, from every place on. -/
theorem isSome_searchFrom_iff {found : List Char → Prop}
    (h : ∀ s, (run node s some).isSome = true ↔ found s.after) {left : List Char} {s : Spot}
    (hleft : s.after = left) :
    (searchFrom node left s).isSome = true ↔ ∃ suffix, found suffix ∧ suffix <:+ left := by
  induction left generalizing s with
  | nil => simp [searchFrom, h, hleft]
  | cons c rest ih =>
    have hnext : s.step? = some (c, ⟨c :: s.before, rest, s.position + 1, s.marks⟩) := by
      rw [Spot.step?, hleft]
    have hrest := @ih ⟨c :: s.before, rest, s.position + 1, s.marks⟩ rfl
    rw [searchFrom, hnext, Option.isSome_or, Bool.or_eq_true, h, hleft, hrest]
    simp [List.suffix_cons_iff, and_or_left, exists_or]

/-- Alternatives of words are found exactly if one of the words stands somewhere in the text. -/
theorem isSome_search_alternatives_iff (hwords : words ≠ []) (text : List Char) :
    (search (.alternatives (words.map .ofWord)) text).isSome = true ↔
      ∃ w ∈ words, w <:+: text := by
  have hsearch : (search (.alternatives (words.map .ofWord)) text).isSome = true ↔
      ∃ suffix, (∃ w ∈ words, w <+: suffix) ∧ suffix <:+ text :=
    @isSome_searchFrom_iff _ (fun left ↦ ∃ w ∈ words, w <+: left)
      (isSome_run_alternatives_iff hwords) text (.start text) rfl
  simp only [hsearch, List.infix_iff_prefix_suffix]
  constructor
  · rintro ⟨suffix, ⟨w, hw, hprefix⟩, hsuffix⟩
    exact ⟨w, hw, suffix, hprefix, hsuffix⟩
  · rintro ⟨w, hw, suffix, hprefix, hsuffix⟩
    exact ⟨suffix, ⟨w, hw, hprefix⟩, hsuffix⟩

end ReceiptRules.Pattern
