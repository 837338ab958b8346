import Mathlib.Data.List.Nodup
import Mathlib.Data.List.Pairwise
import ReceiptRules.Rule.Order

/-!
# Sorted rules

Rules in evaluation order are sorted, and putting sorted rules in order does not move them. Rules no
two of which have the same priority and sequence have one order only, whatever order they come in.
-/

namespace ReceiptRules.Rule

theorem mayPrecede_iff {a b : Rule} : mayPrecede a b = true ↔
    b.priority < a.priority ∨ a.priority = b.priority ∧ a.sequence ≤ b.sequence := by
  simp [mayPrecede]

theorem mayPrecede_total (a b : Rule) : mayPrecede a b = true ∨ mayPrecede b a = true := by
  simp only [mayPrecede_iff]
  omega

theorem mayPrecede_trans {a b c : Rule} (hab : mayPrecede a b = true)
    (hbc : mayPrecede b c = true) : mayPrecede a c = true := by
  simp only [mayPrecede_iff] at *
  omega

/-- The two rules have the same rank, so that only their places in a list can tell them apart. -/
def TiesWith (a b : Rule) : Prop := a.priority = b.priority ∧ a.sequence = b.sequence

instance (a b : Rule) : Decidable (a.TiesWith b) := inferInstanceAs (Decidable (_ ∧ _))

theorem TiesWith.symm {a b : Rule} (h : a.TiesWith b) : b.TiesWith a := ⟨h.1.symm, h.2.symm⟩

/-- Two rules that may stand in either order tie. -/
theorem tiesWith_of_mayPrecede {a b : Rule} (hab : mayPrecede a b = true)
    (hba : mayPrecede b a = true) : a.TiesWith b := by
  simp only [mayPrecede_iff] at hab hba
  unfold TiesWith
  omega

/-- No rule stands in front of one that has to come before it. -/
def Sorted (rules : List Rule) : Prop := rules.Pairwise fun a b ↦ mayPrecede a b = true

theorem sorted_place {rules : List Rule} (h : Sorted rules) (r : Rule) :
    Sorted (place r rules) := by
  induction rules with
  | nil => exact List.pairwise_singleton _ r
  | cons x rest ih =>
    obtain ⟨hx, hrest⟩ := List.pairwise_cons.mp h
    rw [place]
    split
    · next hrx =>
      refine List.pairwise_cons.mpr ⟨?_, h⟩
      intro y hy
      rcases List.mem_cons.mp hy with rfl | hy
      · exact hrx
      · exact mayPrecede_trans hrx (hx y hy)
    · next hrx =>
      have hxr : mayPrecede x r = true := (mayPrecede_total x r).resolve_right hrx
      refine List.pairwise_cons.mpr ⟨?_, ih hrest⟩
      intro y hy
      rcases List.mem_cons.mp ((place_perm r rest).mem_iff.mp hy) with rfl | hy
      · exact hxr
      · exact hx y hy

theorem sorted_ordered (rules : List Rule) : Sorted (ordered rules) := by
  induction rules with
  | nil => exact .nil
  | cons r rest ih => exact sorted_place ih r

theorem place_of_forall {r : Rule} {rules : List Rule} (h : ∀ x ∈ rules, mayPrecede r x = true) :
    place r rules = r :: rules := by
  cases rules with
  | nil => rfl
  | cons x rest => rw [place, if_pos (h x List.mem_cons_self)]

theorem ordered_of_sorted {rules : List Rule} (h : Sorted rules) : ordered rules = rules := by
  induction rules with
  | nil => rfl
  | cons r rest ih =>
    obtain ⟨hr, hrest⟩ := List.pairwise_cons.mp h
    rw [ordered_cons, ih hrest, place_of_forall hr]

theorem ordered_ordered (rules : List Rule) : ordered (ordered rules) = ordered rules :=
  ordered_of_sorted (sorted_ordered rules)

/-- Sorted rules no two of which tie are determined by which rules they are. -/
theorem ordered_eq_of_perm_of_untied {rules rules' : List Rule} (hperm : rules.Perm rules')
    (huntied : rules.Pairwise fun a b ↦ ¬ a.TiesWith b) : ordered rules = ordered rules' := by
  have hperm' : (ordered rules).Perm (ordered rules') :=
    (ordered_perm rules).trans (hperm.trans (ordered_perm rules').symm)
  refine hperm'.eq_of_pairwise ?_ (sorted_ordered rules) (sorted_ordered rules')
  intro a b ha hb hab hba
  have hties : a.TiesWith b := tiesWith_of_mayPrecede hab hba
  have ha : a ∈ rules := mem_ordered.mp ha
  have hb : b ∈ rules := hperm.mem_iff.mpr (mem_ordered.mp hb)
  have : Std.Symm fun a b : Rule ↦ ¬ a.TiesWith b := ⟨fun _ _ h hties ↦ h hties.symm⟩
  by_contra hne
  exact huntied.forall ha hb hne hties

theorem ordered_eq_of_perm {rules rules' : List Rule} (hperm : rules.Perm rules')
    (hdistinct : (rules.map fun r ↦ r.sequence).Nodup) : ordered rules = ordered rules' :=
  ordered_eq_of_perm_of_untied hperm <|
    (List.pairwise_map.mp hdistinct).imp fun hsequence hties ↦ hsequence hties.2

/-! ## Some of the rules -/

/-- A rule takes the same place among some of the rules as among all of them. -/
theorem filter_place {rules : List Rule} (h : Sorted rules) (p : Rule → Bool) (r : Rule) :
    (place r rules).filter p = if p r then place r (rules.filter p) else rules.filter p := by
  induction rules with
  | nil =>
    rw [place, List.filter_cons]
    rfl
  | cons x rest ih =>
    obtain ⟨hx, hrest⟩ := List.pairwise_cons.mp h
    rw [place]
    split
    · next hrx =>
      have hfirst : ∀ y ∈ (x :: rest).filter p, mayPrecede r y = true := by
        intro y hy
        rcases List.mem_cons.mp (List.mem_of_mem_filter hy) with rfl | hy
        · exact hrx
        · exact mayPrecede_trans hrx (hx y hy)
      rw [List.filter_cons, place_of_forall hfirst]
    · next hrx =>
      rw [List.filter_cons, ih hrest, List.filter_cons]
      split
      · split
        · rw [place, if_neg hrx]
        · rfl
      · rfl

/-- Leaving rules out does not change the order of the others. -/
theorem filter_ordered (p : Rule → Bool) (rules : List Rule) :
    (ordered rules).filter p = ordered (rules.filter p) := by
  induction rules with
  | nil => rfl
  | cons r rest ih =>
    rw [ordered_cons, filter_place (sorted_ordered rest), ih, List.filter_cons]
    split <;> rfl

end ReceiptRules.Rule
