import Mathlib.Data.List.Permutation
import Mathlib.Data.List.Sublists
import ReceiptRules.Proofs.Text.Pieces

/-!
# Separators that give two words

The pieces of a text, with the separator between them, make up the text again. So where two words are
among the trimmed pieces, the separator is made of what else there is in the text. If that is a comma
and a blank, the separator is the comma, alone or with the blank behind it.
-/

namespace ReceiptRules.Text.Search

open Blank List

variable {separator between : List Char} {texts : List (List Char)} {p q a b cs : List Char}

/-! ## Joining the pieces again -/

theorem intercalate_modifyHead_cons (c : Char) (h : texts ≠ []) :
    separator.intercalate (texts.modifyHead (c :: ·)) = c :: separator.intercalate texts := by
  obtain ⟨first, rest, rfl⟩ := exists_cons_of_ne_nil h
  cases rest <;> simp [intercalate_cons_cons]

theorem intercalate_pieces (h : separator ≠ []) (skip : Nat) (cs : List Char) :
    separator.intercalate (pieces separator skip cs) = cs.drop skip := by
  induction cs generalizing skip with
  | nil => cases skip <;> simp [pieces]
  | cons c rest ih =>
    cases skip with
    | succ skip => exact ih skip
    | zero =>
      rw [pieces]
      split
      · next hfound =>
        -- The separator comes first, and the other pieces are those of what is behind it.
        obtain ⟨back, hback⟩ := isPrefixOf_iff_prefix.mp hfound
        obtain ⟨first, others, rfl⟩ := exists_cons_of_ne_nil h
        have hrest : others ++ back = rest := (cons.inj hback).2
        rw [intercalate_cons_of_ne_nil (pieces_ne_nil _ _ _), ih, length_cons, Nat.add_sub_cancel,
          ← hrest, drop_left]
        exact hback.trans (hrest ▸ rfl)
      · rw [intercalate_modifyHead_cons c (pieces_ne_nil separator 0 rest), ih]
        rfl

/-! ## What is left beside two pieces -/

theorem sublist_intercalate (h : p ∈ texts) : p <+ separator.intercalate texts := by
  induction texts with
  | nil => cases h
  | cons first rest ih =>
    cases rest with
    | nil => rw [mem_singleton.mp h, intercalate_singleton]
    | cons second rest =>
      rw [intercalate_cons_cons, append_assoc]
      rcases mem_cons.mp h with rfl | h
      · exact sublist_append_left _ _
      · exact (ih h).trans ((sublist_append_right _ _).trans (sublist_append_right _ _))

/-- Two different texts are joined with a separator between them. -/
theorem subperm_intercalate (hp : p ∈ texts) (hq : q ∈ texts) (hne : p ≠ q) :
    p ++ q ++ separator <+~ separator.intercalate texts := by
  induction texts with
  | nil => cases hp
  | cons first rest ih =>
    cases rest with
    | nil => exact absurd ((mem_singleton.mp hp).trans (mem_singleton.mp hq).symm) hne
    | cons second rest =>
      rw [intercalate_cons_cons]
      rcases mem_cons.mp hp with rfl | hp'
      · have hq' := (mem_cons.mp hq).resolve_left hne.symm
        have hswap : p ++ q ++ separator ~ p ++ separator ++ q := by
          rw [append_assoc, append_assoc]
          exact perm_append_comm.append_left p
        exact hswap.subperm.trans ((sublist_intercalate hq').append_left _).subperm
      · rcases mem_cons.mp hq with rfl | hq'
        · have hswap : p ++ q ++ separator ~ q ++ separator ++ p := by
            rw [append_assoc]
            exact perm_append_comm
          exact hswap.subperm.trans ((sublist_intercalate hp').append_left _).subperm
        · exact (ih hp' hq').trans (sublist_append_right _ _).subperm

theorem trimChars_sublist (cs : List Char) : trimChars cs <+ cs := by
  obtain ⟨front, back, hcs, -, -⟩ := around_trimChars cs
  nth_rewrite 2 [hcs]
  exact (sublist_append_left _ _).trans (sublist_append_right _ _)

/-- The separator that gives two words is made of what else there is in the text. -/
theorem subperm_of_trimmed_pieces (hsep : separator ≠ [])
    (ha : a ∈ (pieces separator 0 cs).map trimChars)
    (hb : b ∈ (pieces separator 0 cs).map trimChars) (hne : a ≠ b)
    (hcs : cs ~ a ++ b ++ between) : separator <+~ between := by
  obtain ⟨p, hp, rfl⟩ := mem_map.mp ha
  obtain ⟨q, hq, rfl⟩ := mem_map.mp hb
  have hpq : p ≠ q := fun heq ↦ hne (congrArg trimChars heq)
  have hjoined : p ++ q ++ separator <+~ cs := by
    have hjoin : separator.intercalate (pieces separator 0 cs) = cs := intercalate_pieces hsep 0 cs
    rw [← hjoin]
    exact subperm_intercalate hp hq hpq
  have hwords : trimChars p ++ trimChars q ++ separator <+ p ++ q ++ separator :=
    ((trimChars_sublist p).append (trimChars_sublist q)).append (Sublist.refl separator)
  have htrimmed := (hwords.subperm.trans hjoined).trans hcs.subperm
  exact (subperm_append_left _).mp htrimmed

theorem toList_mem_trimmed_pieces {separator text item : String}
    (h : item ∈ (split separator text).map trim) :
    item.toList ∈ (pieces separator.toList 0 text.toList).map trimChars := by
  obtain ⟨piece, hpiece, rfl⟩ := mem_map.mp h
  obtain ⟨cs, hcs, rfl⟩ := mem_map.mp hpiece
  rw [toList_trim, String.toList_ofList]
  exact mem_map_of_mem hcs

/-- What can be made of a comma and a blank. -/
theorem eq_of_subperm_comma_blank (h : separator <+~ [',', ' ']) :
    separator = [] ∨ separator = [','] ∨ separator = [' '] ∨ separator = [',', ' '] ∨
      separator = [' ', ','] := by
  obtain ⟨found, hperm, hsublist⟩ := h
  have hfound : found ∈ [[], [' '], [','], [',', ' ']] := mem_sublists'.mpr hsublist
  simp only [mem_cons, not_mem_nil, or_false] at hfound
  rcases hfound with rfl | rfl | rfl | rfl
  · exact .inl (perm_nil.mp hperm.symm)
  · exact .inr (.inr (.inl (perm_singleton.mp hperm.symm)))
  · exact .inr (.inl (perm_singleton.mp hperm.symm))
  · have horders : separator ∈ [[',', ' '], [' ', ',']] := mem_permutations'.mpr hperm.symm
    simp only [mem_cons, not_mem_nil, or_false] at horders
    exact .inr (.inr (.inr horders))

end ReceiptRules.Text.Search
