import Mathlib.Data.List.Sort
import Mathlib.Data.String.Basic
import ReceiptRules.Text.Search

/-!
# Ordered texts

Putting texts into order keeps exactly the texts that were there, each of them once.
-/

namespace ReceiptRules.Text.Ordered

theorem mem_insert {s t : String} {texts : List String} :
    t ∈ insert s texts ↔ t = s ∨ t ∈ texts := by
  induction texts with
  | nil => simp [insert]
  | cons first rest ih =>
    rw [insert]
    split
    · simp
    · split
      · next h =>
        subst h
        simp
      · rw [List.mem_cons, ih, List.mem_cons]
        exact or_left_comm

theorem pairwise_insert {texts : List String} (h : texts.Pairwise (· < ·)) (s : String) :
    (insert s texts).Pairwise (· < ·) := by
  induction texts with
  | nil => simp [insert]
  | cons first rest ih =>
    obtain ⟨hfirst, hrest⟩ := List.pairwise_cons.mp h
    rw [insert]
    split
    · next hlt =>
      refine List.pairwise_cons.mpr ⟨?_, h⟩
      intro t ht
      rcases List.mem_cons.mp ht with rfl | ht
      · exact hlt
      · exact lt_trans hlt (hfirst t ht)
    · next hle =>
      split
      · exact h
      · next hne =>
        refine List.pairwise_cons.mpr ⟨?_, ih hrest⟩
        intro t ht
        rcases mem_insert.mp ht with rfl | ht
        · exact lt_of_le_of_ne (not_lt.mp hle) (Ne.symm hne)
        · exact hfirst t ht

theorem foldl_insert {texts known : List String} (hknown : known.Pairwise (· < ·)) :
    (texts.foldl (fun known s ↦ insert s known) known).Pairwise (· < ·) ∧
      ∀ t, t ∈ texts.foldl (fun known s ↦ insert s known) known ↔ t ∈ known ∨ t ∈ texts := by
  induction texts generalizing known with
  | nil => simpa using hknown
  | cons s rest ih =>
    obtain ⟨hsorted, hmem⟩ := ih (pairwise_insert hknown s)
    refine ⟨hsorted, fun t ↦ ?_⟩
    rw [List.foldl_cons, hmem, mem_insert, List.mem_cons, or_assoc, or_left_comm]

theorem pairwise_ofList (texts : List String) : (ofList texts).Pairwise (· < ·) :=
  (foldl_insert .nil).1

theorem mem_ofList {t : String} {texts : List String} : t ∈ ofList texts ↔ t ∈ texts := by
  rw [ofList, (foldl_insert .nil).2, List.mem_nil_iff, false_or]

/-- The order leaves no choice: the texts alone decide. -/
theorem ofList_congr {texts texts' : List String} (h : ∀ t, t ∈ texts ↔ t ∈ texts') :
    ofList texts = ofList texts' := by
  refine (pairwise_ofList texts).eq_of_mem_iff (pairwise_ofList texts') fun t ↦ ?_
  rw [mem_ofList, mem_ofList, h]

end ReceiptRules.Text.Ordered
