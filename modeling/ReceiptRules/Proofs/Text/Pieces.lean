import ReceiptRules.Proofs.Text.Blank
import ReceiptRules.Text.Search

/-!
# Trimmed pieces

The pieces of a text between the occurrences of a character. Blanks around the text are blanks around
its first and its last piece, so that they make no difference once the pieces are trimmed.
-/

namespace ReceiptRules.Text.Search

open Blank

variable {sep : Char} {front back cs : List Char}

/-- What holds of all characters of the separator and of the texts holds of the joined text. -/
theorem forall_mem_intercalate {p : Char → Prop} {separator : List Char} {texts : List (List Char)}
    (hseparator : ∀ c ∈ separator, p c) (h : ∀ text ∈ texts, ∀ c ∈ text, p c) :
    ∀ c ∈ separator.intercalate texts, p c := by
  induction texts with
  | nil => simp
  | cons text rest ih =>
    obtain ⟨htext, hrest⟩ := List.forall_mem_cons.mp h
    cases rest with
    | nil => simpa using htext
    | cons text' rest =>
      rw [List.intercalate_cons_cons]
      simp only [List.forall_mem_append]
      exact ⟨⟨htext, hseparator⟩, ih hrest⟩

/-- There is always a piece, be it an empty one. -/
theorem pieces_ne_nil (separator : List Char) (skip : Nat) (cs : List Char) :
    pieces separator skip cs ≠ [] := by
  induction cs generalizing skip with
  | nil => cases skip <;> exact List.cons_ne_nil _ _
  | cons c rest ih =>
    cases skip with
    | succ skip => exact ih skip
    | zero =>
      rw [pieces]
      split
      · exact List.cons_ne_nil _ _
      · exact fun h ↦ ih 0 (List.modifyHead_eq_nil_iff.mp h)

theorem pieces_singleton (sep : Char) (cs : List Char) : pieces [sep] 0 cs = cs.splitOn sep := by
  induction cs with
  | nil => rfl
  | cons c rest ih =>
    rw [pieces, List.splitOn_eq_splitOnP, List.splitOnP_cons_eq_if_modifyHead,
      ← List.splitOn_eq_splitOnP]
    by_cases h : c = sep
    · simp [h, ih]
    · simp [h, Ne.symm h, ih]

theorem split_singleton (sep : Char) (s : String) :
    split (String.ofList [sep]) s = (s.toList.splitOn sep).map String.ofList := by
  rw [split, String.toList_ofList, pieces_singleton]

theorem splitOn_cons_of_ne {c : Char} (h : c ≠ sep) (cs : List Char) :
    (c :: cs).splitOn sep = (cs.splitOn sep).modifyHead (c :: ·) := by
  rw [List.splitOn_eq_splitOnP, List.splitOnP_cons_eq_if_modifyHead, if_neg (by simpa using h),
    ← List.splitOn_eq_splitOnP]

theorem splitOn_cons_self (sep : Char) (cs : List Char) :
    (sep :: cs).splitOn sep = [] :: cs.splitOn sep := by
  rw [List.splitOn_eq_splitOnP, List.splitOnP_cons_eq_if_modifyHead, if_pos (by simp),
    ← List.splitOn_eq_splitOnP]

theorem trimmed_splitOn_append_left (hsep : isBlank sep = false)
    (h : ∀ c ∈ front, isBlank c = true) :
    ((front ++ cs).splitOn sep).map trimChars = (cs.splitOn sep).map trimChars := by
  induction front with
  | nil => rfl
  | cons c front ih =>
    obtain ⟨hc, hfront⟩ := List.forall_mem_cons.mp h
    rw [List.cons_append, splitOn_cons_of_ne (ne_of_isBlank hsep hc), ← ih hfront]
    cases (front ++ cs).splitOn sep with
    | nil => rfl
    | cons piece rest =>
      rw [List.modifyHead_cons, List.map_cons, List.map_cons, trimChars_cons hc]

/-- What stands behind a text joins its last piece. -/
theorem forall₂_splitOn_append (h : sep ∉ back) (cs : List Char) :
    List.Forall₂ (fun piece piece' ↦ piece = piece' ∨ piece = piece' ++ back)
      ((cs ++ back).splitOn sep) (cs.splitOn sep) := by
  induction cs with
  | nil =>
    have hback : back.splitOn sep = [back] := by
      rw [List.splitOn_eq_splitOnP]
      exact List.splitOnP_eq_singleton fun c hc ↦ beq_eq_false_iff_ne.mpr (ne_of_mem_of_not_mem hc h)
    rw [List.nil_append, hback]
    exact .cons (.inr rfl) .nil
  | cons c rest ih =>
    rw [List.cons_append]
    by_cases hc : c = sep
    · subst hc
      rw [splitOn_cons_self, splitOn_cons_self]
      exact .cons (.inl rfl) ih
    · rw [splitOn_cons_of_ne hc, splitOn_cons_of_ne hc]
      generalize (rest ++ back).splitOn sep = pieces, rest.splitOn sep = pieces' at ih ⊢
      cases ih with
      | nil => exact .nil
      | cons hpiece hrest =>
        refine .cons ?_ hrest
        rcases hpiece with rfl | rfl
        · exact .inl rfl
        · exact .inr rfl

theorem trimmed_splitOn_append_right (hsep : isBlank sep = false)
    (h : ∀ c ∈ back, isBlank c = true) :
    ((cs ++ back).splitOn sep).map trimChars = (cs.splitOn sep).map trimChars := by
  have hback : sep ∉ back := fun hmem ↦ ne_of_isBlank hsep (h sep hmem) rfl
  have hpieces := forall₂_splitOn_append hback cs
  generalize (cs ++ back).splitOn sep = pieces, cs.splitOn sep = pieces' at hpieces ⊢
  induction hpieces with
  | nil => rfl
  | cons hpiece _ ih =>
    rw [List.map_cons, List.map_cons, ih]
    rcases hpiece with rfl | rfl
    · rfl
    · rw [trimChars_append_right h]

/-- Blanks around a text do not show in its trimmed pieces. -/
theorem trimmed_splitOn_trimChars (hsep : isBlank sep = false) (cs : List Char) :
    ((trimChars cs).splitOn sep).map trimChars = (cs.splitOn sep).map trimChars := by
  obtain ⟨front, back, hcs, hfront, hback⟩ := around_trimChars cs
  calc ((trimChars cs).splitOn sep).map trimChars
      = ((trimChars cs ++ back).splitOn sep).map trimChars :=
        (trimmed_splitOn_append_right hsep hback).symm
    _ = ((front ++ (trimChars cs ++ back)).splitOn sep).map trimChars :=
        (trimmed_splitOn_append_left hsep hfront).symm
    _ = (cs.splitOn sep).map trimChars := by rw [← hcs]

end ReceiptRules.Text.Search
