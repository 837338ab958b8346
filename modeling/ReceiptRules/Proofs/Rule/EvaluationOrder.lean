import ReceiptRules.Rule.Order

/-!
# The evaluation order of a list

A rule of a list is known by its position, since equal rules may stand in a list more than once.
The entries of a list are ordered by falling priority, then by rising sequence, then by position.
This order is strict, so that it arranges the entries of a list in one way only, and putting rules
in evaluation order arranges them in this way.
-/

namespace ReceiptRules.Rule

/-- Whether one entry, a rule with its position in a list, comes before another one. -/
def Before (a b : Rule × Nat) : Prop :=
  b.1.priority < a.1.priority ∨ a.1.priority = b.1.priority ∧
    (a.1.sequence < b.1.sequence ∨ a.1.sequence = b.1.sequence ∧ a.2 < b.2)

theorem Before.irrefl (a : Rule × Nat) : ¬ Before a a := by
  unfold Before
  omega

theorem Before.trans {a b c : Rule × Nat} (hab : Before a b) (hbc : Before b c) : Before a c := by
  unfold Before at *
  omega

theorem Before.asymm {a b : Rule × Nat} (h : Before a b) : ¬ Before b a := fun h' ↦
  Before.irrefl a (h.trans h')

/-- A rule that may precede another one comes before it wherever it stands first in the list. -/
theorem before_of_mayPrecede {a b : Rule × Nat} (h : mayPrecede a.1 b.1 = true)
    (hpos : a.2 < b.2) : Before a b := by
  simp only [mayPrecede, Bool.or_eq_true, Bool.and_eq_true, decide_eq_true_eq, beq_iff_eq] at h
  unfold Before
  omega

/-- A rule that may not precede another one comes after it wherever the two stand. -/
theorem before_of_not_mayPrecede {a b : Rule × Nat} (h : ¬ mayPrecede a.1 b.1 = true) :
    Before b a := by
  simp only [mayPrecede, Bool.or_eq_true, Bool.and_eq_true, decide_eq_true_eq, beq_iff_eq] at h
  unfold Before
  omega

/-! ## Placing an entry -/

/-- Placing a rule places its entry: it stands before all entries that come after it. -/
theorem exists_place (e : Rule × Nat) (entries : List (Rule × Nat))
    (hsorted : entries.Pairwise Before) (hpos : ∀ x ∈ entries, e.2 < x.2) :
    ∃ placed : List (Rule × Nat), placed.map Prod.fst = place e.1 (entries.map Prod.fst) ∧
      placed.Perm (e :: entries) ∧ placed.Pairwise Before := by
  induction entries with
  | nil => exact ⟨[e], rfl, .refl _, List.pairwise_singleton _ _⟩
  | cons x rest ih =>
    rw [List.pairwise_cons] at hsorted
    by_cases h : mayPrecede e.1 x.1 = true
    · have hex : Before e x := before_of_mayPrecede h (hpos x List.mem_cons_self)
      refine ⟨e :: x :: rest, by simp [place, h], .refl _, ?_⟩
      rw [List.pairwise_cons, List.pairwise_cons]
      refine ⟨?_, hsorted⟩
      intro y hy
      rcases List.mem_cons.mp hy with rfl | hy
      · exact hex
      · exact hex.trans (hsorted.1 y hy)
    · have hxe : Before x e := before_of_not_mayPrecede h
      obtain ⟨placed, hmap, hperm, hplaced⟩ :=
        ih hsorted.2 fun y hy ↦ hpos y (List.mem_cons_of_mem x hy)
      refine ⟨x :: placed, by simp [place, h, hmap], (hperm.cons x).trans (.swap e x rest), ?_⟩
      rw [List.pairwise_cons]
      refine ⟨?_, hplaced⟩
      intro y hy
      rcases List.mem_cons.mp (hperm.mem_iff.mp hy) with rfl | hy
      · exact hxe
      · exact hsorted.1 y hy

/-- Rules in evaluation order are their entries arranged by `Before`. -/
theorem exists_ordered (entries : List (Rule × Nat))
    (hpos : entries.Pairwise fun a b ↦ a.2 < b.2) :
    ∃ arranged : List (Rule × Nat), arranged.map Prod.fst = ordered (entries.map Prod.fst) ∧
      arranged.Perm entries ∧ arranged.Pairwise Before := by
  induction entries with
  | nil => exact ⟨[], rfl, .refl _, .nil⟩
  | cons e rest ih =>
    rw [List.pairwise_cons] at hpos
    obtain ⟨arranged, hmap, hperm, hsorted⟩ := ih hpos.2
    obtain ⟨placed, hplaced, hperm', hsorted'⟩ := exists_place e arranged hsorted fun x hx ↦
      hpos.1 x (hperm.mem_iff.mp hx)
    refine ⟨placed, ?_, hperm'.trans (hperm.cons e), hsorted'⟩
    rw [hplaced, hmap]
    rfl

/-! ## The enabled rules of a list -/

/-- The entries of a list whose rules are enabled. -/
def enabledEntries (rules : List Rule) : List (Rule × Nat) :=
  rules.zipIdx.filter fun e ↦ e.1.enabled

theorem mem_enabledEntries {rules : List Rule} {r : Rule} {i : Nat} :
    (r, i) ∈ enabledEntries rules ↔ rules[i]? = some r ∧ r.enabled = true := by
  simp [enabledEntries, List.mk_mem_zipIdx_iff_getElem?]

theorem exists_mem_enabledEntries {rules : List Rule} {r : Rule} (hr : r ∈ rules)
    (henabled : r.enabled = true) : ∃ i, (r, i) ∈ enabledEntries rules := by
  obtain ⟨i, hi⟩ := List.mem_iff_getElem?.mp hr
  exact ⟨i, mem_enabledEntries.mpr ⟨hi, henabled⟩⟩

theorem enabledEntries_map_fst (rules : List Rule) :
    (enabledEntries rules).map Prod.fst = rules.filter fun r ↦ r.enabled := by
  have h := List.filter_map (f := Prod.fst) (p := fun r : Rule ↦ r.enabled) (l := rules.zipIdx)
  rw [List.zipIdx_map_fst] at h
  exact h.symm

theorem zipIdx_pairwise_snd (rules : List Rule) (n : Nat) :
    (rules.zipIdx n).Pairwise fun a b ↦ a.2 < b.2 := by
  induction rules generalizing n with
  | nil => exact .nil
  | cons r rest ih =>
    rw [List.zipIdx_cons, List.pairwise_cons]
    refine ⟨?_, ih (n + 1)⟩
    intro e he
    exact List.le_snd_of_mem_zipIdx he

/-- The enabled entries of a list arranged in evaluation order. -/
structure InOrder (rules : List Rule) (entries : List (Rule × Nat)) : Prop where
  perm : entries.Perm (enabledEntries rules)
  sorted : entries.Pairwise Before

theorem exists_inOrder (rules : List Rule) :
    ∃ entries, InOrder rules entries ∧
      entries.map Prod.fst = ordered (rules.filter fun r ↦ r.enabled) := by
  obtain ⟨entries, hmap, hperm, hsorted⟩ := exists_ordered (enabledEntries rules)
    ((zipIdx_pairwise_snd rules 0).filter _)
  rw [enabledEntries_map_fst] at hmap
  exact ⟨entries, ⟨hperm, hsorted⟩, hmap⟩

namespace InOrder

variable {rules : List Rule} {entries before after : List (Rule × Nat)} {e x : Rule × Nat}

theorem mem_iff (h : InOrder rules entries) : e ∈ entries ↔ e ∈ enabledEntries rules :=
  h.perm.mem_iff

/-- What stands in front of an entry are exactly the entries that come before it. -/
theorem mem_front_iff (h : InOrder rules (before ++ e :: after)) :
    x ∈ before ↔ x ∈ enabledEntries rules ∧ Before x e := by
  have hsorted := List.pairwise_append.mp h.sorted
  constructor
  · intro hx
    exact ⟨h.mem_iff.mp (List.mem_append_left _ hx), hsorted.2.2 x hx e List.mem_cons_self⟩
  · rintro ⟨hx, hbefore⟩
    rcases List.mem_append.mp (h.mem_iff.mpr hx) with hx | hx
    · exact hx
    · rcases List.mem_cons.mp hx with rfl | hx
      · exact absurd hbefore (Before.irrefl x)
      · have hafter : Before e x := (List.pairwise_cons.mp hsorted.2.1).1 x hx
        exact absurd hbefore hafter.asymm

end InOrder

end ReceiptRules.Rule
