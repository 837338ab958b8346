import ReceiptRules.Proofs.Rule.Turns

/-!
# A malformed rule in a list

A rule that is put into a list finds its place in the evaluation order, and all others stay in the
order in which they were, since the positions behind it move by one alike. If the rule is malformed,
nothing becomes of it but a note, and that only if its turn comes. The winner is the same.
-/

namespace ReceiptRules.Rule

variable {settings : Settings} {receipt : Receipt} {front back : List Rule} {r : Rule}
  {log log' : List Diagnostic}

/-! ## The place of a rule that is put into a list -/

/-- The entries of the enabled rules of a list, with positions that count from a number on. -/
def enabledFrom (n : Nat) (rules : List Rule) : List (Rule × Nat) :=
  (rules.zipIdx n).filter fun e ↦ e.1.enabled

theorem map_fst_enabledFrom (n : Nat) (rules : List Rule) :
    (enabledFrom n rules).map Prod.fst = rules.filter fun x ↦ x.enabled := by
  have h := List.filter_map (f := Prod.fst) (p := fun x : Rule ↦ x.enabled) (l := rules.zipIdx n)
  rw [List.zipIdx_map_fst] at h
  exact h.symm

theorem enabledEntries_append_cons (front back : List Rule) (h : r.enabled = true) :
    enabledEntries (front ++ r :: back) =
      enabledFrom 0 front ++ (r, front.length) :: enabledFrom (front.length + 1) back := by
  rw [enabledEntries, List.zipIdx_append, List.filter_append, List.zipIdx_cons, Nat.zero_add,
    List.filter_cons_of_pos (by exact h)]
  rfl

/-- Without the rule, the others are in the order that they have with it. -/
theorem exists_inOrder_insert (front back : List Rule) (h : r.enabled = true) :
    ∃ upper lower : List (Rule × Nat),
      InOrder (front ++ r :: back) (upper ++ (r, front.length) :: lower) ∧
      ordered ((front ++ back).filter fun x ↦ x.enabled) =
        upper.map Prod.fst ++ lower.map Prod.fst ∧
      ordered ((front ++ r :: back).filter fun x ↦ x.enabled) =
        upper.map Prod.fst ++ r :: lower.map Prod.fst := by
  have hentries := enabledEntries_append_cons front back h
  obtain ⟨entries, horder, hmap⟩ := exists_inOrder (front ++ r :: back)
  have hmem : (r, front.length) ∈ entries := horder.mem_iff.mpr (hentries ▸ by simp)
  obtain ⟨upper, lower, rfl⟩ := List.append_of_mem hmem
  have hpositions : (enabledEntries (front ++ r :: back)).Pairwise fun a b ↦ a.2 < b.2 :=
    (zipIdx_pairwise_snd (front ++ r :: back) 0).filter _
  have hperm := horder.perm
  rw [hentries] at hpositions hperm
  have hothers {before after : List (Rule × Nat)} {e : Rule × Nat} :
      (before ++ after).Sublist (before ++ e :: after) :=
    .append (.refl _) (List.sublist_cons_self _ _)
  obtain ⟨arranged, harranged, hpermA, hsortedA⟩ := exists_ordered
    (enabledFrom 0 front ++ enabledFrom (front.length + 1) back) (hpositions.sublist hothers)
  have hsame : arranged = upper ++ lower := by
    have hperm' : (upper ++ lower).Perm
        (enabledFrom 0 front ++ enabledFrom (front.length + 1) back) :=
      (List.perm_middle.symm.trans (hperm.trans List.perm_middle)).cons_inv
    refine (hpermA.trans hperm'.symm).eq_of_pairwise ?_ hsortedA (horder.sorted.sublist hothers)
    exact fun a b _ _ hab hba ↦ absurd hba hab.asymm
  refine ⟨upper, lower, horder, ?_, ?_⟩
  · rw [← List.map_append, ← hsame, harranged, List.map_append, map_fst_enabledFrom,
      map_fst_enabledFrom, List.filter_append]
  · rw [← hmap, List.map_append, List.map_cons]

/-! ## Rules behind the first that is not passed over -/

/-- Behind a rule that is not passed over no rule is tried. -/
theorem firstMatch_append_of_exists (h : ∃ x ∈ front, ¬ x.PassedOver settings receipt)
    (rest : List Rule) :
    firstMatch settings receipt (front ++ rest) = firstMatch settings receipt front := by
  induction front with
  | nil => simp at h
  | cons x front ih =>
    by_cases hx : x.PassedOver settings receipt
    · obtain ⟨y, hy, hy'⟩ := h
      have hlater : ∃ y ∈ front, ¬ y.PassedOver settings receipt :=
        ⟨y, (List.mem_cons.mp hy).resolve_left fun heq ↦ hy' (heq ▸ hx), hy'⟩
      obtain ⟨notes, hnotes⟩ := exists_firstMatch_cons_of_passedOver hx
      rw [List.cons_append, hnotes, hnotes, ih hlater]
    · have hreason : x.malformedReason? = none := by
        rw [malformedReason?_eq_none_iff]
        exact not_not.mp fun hwf ↦ hx (.inl hwf)
      rw [List.cons_append, firstMatch, firstMatch, hreason]
      cases hv : Condition.combine settings (some x.id) receipt x.conditions with
      | error e => rfl
      | ok v =>
        have hholds : v.holds = true := by
          rw [← Bool.not_eq_false]
          exact fun hfails ↦ hx (.inr ⟨v, hv, hfails⟩)
        change (if v.holds = true then _ else _) = if v.holds = true then _ else _
        rw [if_pos hholds, if_pos hholds]

/-! ## What becomes of a malformed rule -/

/-- No rule before the given entry wins: it comes before the winner, or there is none. -/
def NoneWinsBefore (settings : Settings) (receipt : Receipt) (rules : List Rule)
    (e : Rule × Nat) : Prop :=
  ∀ w i, IsTried settings receipt rules w i → w.Applies settings receipt → Before e (w, i)

/-- The second log has one note more, by which the rule is skipped as malformed. -/
def AddsSkipNote (r : Rule) (log log' : List Diagnostic) : Prop :=
  ∃ early late reason, r.malformedReason? = some reason ∧ log = early ++ late ∧
    log' = early ++ skipNote r reason :: late

/-- The log grows by the note on a rule of the list, or not at all. -/
structure NotesInsert (settings : Settings) (receipt : Receipt) (front : List Rule) (r : Rule)
    (back : List Rule) (log log' : List Diagnostic) : Prop where
  gained : NoneWinsBefore settings receipt (front ++ r :: back) (r, front.length) →
    AddsSkipNote r log log'
  same : ¬ NoneWinsBefore settings receipt (front ++ r :: back) (r, front.length) → log' = log

theorem NotesInsert.append (h : NotesInsert settings receipt front r back log log')
    (late : List Diagnostic) :
    NotesInsert settings receipt front r back (log ++ late) (log' ++ late) where
  gained hnone := by
    obtain ⟨early, middle, reason, hreason, rfl, rfl⟩ := h.gained hnone
    exact ⟨early, middle ++ late, reason, hreason, by simp, by simp⟩
  same hwins := by rw [h.same hwins]

theorem firstMatch_cons_of_not_wellFormed (settings : Settings) (receipt : Receipt)
    (hbad : ¬ r.WellFormed) (rest : List Rule) :
    ∃ reason, r.malformedReason? = some reason ∧ firstMatch settings receipt (r :: rest) =
      (firstMatch settings receipt rest).map (Resolution.behind [skipNote r reason]) := by
  cases hreason : r.malformedReason? with
  | none => exact absurd (malformedReason?_eq_none_iff.mp hreason) hbad
  | some reason =>
    refine ⟨reason, rfl, ?_⟩
    rw [firstMatch, hreason]
    rfl

section Place

variable {upper lower : List (Rule × Nat)}
  (horder : InOrder (front ++ r :: back) (upper ++ (r, front.length) :: lower))

include horder

theorem noneWinsBefore_of_passedOver (hbad : ¬ r.WellFormed)
    (hover : ∀ e ∈ upper, e.1.PassedOver settings receipt) :
    NoneWinsBefore settings receipt (front ++ r :: back) (r, front.length) := by
  intro w i htried happlies
  rcases List.mem_append.mp (horder.mem_iff.mpr htried.1) with hw | hw
  · exact absurd happlies (hover _ hw).not_applies
  · rcases List.mem_cons.mp hw with heq | hw
    · cases heq
      exact absurd happlies.1 hbad
    · exact List.rel_of_pairwise_cons (List.pairwise_append.mp horder.sorted).2.1 hw

/-- Where the rules before the given one settle what is found, they are passed over if none of them
wins. -/
theorem passedOver_of_noneWinsBefore {found : Resolution}
    (hfound : firstMatch settings receipt (upper.map Prod.fst) = .ok found)
    (hresolve : resolve settings receipt (front ++ r :: back) = .ok found)
    (hnone : NoneWinsBefore settings receipt (front ++ r :: back) (r, front.length)) :
    ∀ e ∈ upper, e.1.PassedOver settings receipt := by
  intro e he
  obtain ⟨winner, notes⟩ := found
  cases winner with
  | none =>
    obtain ⟨logs, htried, -⟩ := firstMatch_tried hfound
    exact htried.all_of_none.1 e.1 (List.mem_map_of_mem he)
  | some w =>
    obtain ⟨⟨i, htried⟩, happlies⟩ := exists_resolve_eq_some_iff.mp ⟨notes, hresolve⟩
    have hbefore : Before (r, front.length) (w, i) := hnone w i htried happlies
    obtain ⟨henabled, hfirst⟩ := horder.mem_front_iff.mp he
    exact htried.2 e henabled (hfirst.trans hbefore)

end Place

/-- Putting a malformed rule into a list leaves the failure or the winner as it is, and at most its own
note joins the others. -/
theorem resolve_insert (settings : Settings) (receipt : Receipt) (front back : List Rule)
    (henabled : r.enabled = true) (hbad : ¬ r.WellFormed) :
    (∀ e, resolve settings receipt (front ++ back) = .error e →
      resolve settings receipt (front ++ r :: back) = .error e) ∧
    ∀ found, resolve settings receipt (front ++ back) = .ok found →
      ∃ notes, resolve settings receipt (front ++ r :: back) = .ok { found with notes } ∧
        NotesInsert settings receipt front r back found.notes notes := by
  obtain ⟨upper, lower, horder, hwithout, hwith⟩ := exists_inOrder_insert front back henabled
  rw [resolve, resolve, hwithout, hwith]
  by_cases hover : ∀ e ∈ upper, e.1.PassedOver settings receipt
  · -- The turn of the rule comes.
    have hover' : ∀ x ∈ upper.map Prod.fst, x.PassedOver settings receipt := by simpa using hover
    obtain ⟨early, hearly⟩ := exists_firstMatch_append hover'
    obtain ⟨reason, hreason, hskip⟩ := firstMatch_cons_of_not_wellFormed settings receipt hbad
      (lower.map Prod.fst)
    have hnone : NoneWinsBefore settings receipt (front ++ r :: back) (r, front.length) :=
      noneWinsBefore_of_passedOver horder hbad hover
    rw [hearly, hearly, hskip]
    cases firstMatch settings receipt (lower.map Prod.fst) with
    | error e =>
      refine ⟨fun _ h ↦ h, fun found hfound ↦ ?_⟩
      cases hfound
    | ok later =>
      refine ⟨fun e herror ↦ ?_, fun found hfound ↦ ?_⟩
      · cases herror
      · cases hfound
        exact ⟨_, rfl, fun _ ↦ ⟨early, later.notes, reason, hreason, rfl, rfl⟩, absurd hnone⟩
  · -- Resolving ends before it.
    have hstops : ∃ x ∈ upper.map Prod.fst, ¬ x.PassedOver settings receipt := by
      simpa using hover
    have hsame := firstMatch_append_of_exists hstops
    rw [hsame, hsame]
    refine ⟨fun _ h ↦ h, fun found hfound ↦ ⟨found.notes, hfound, fun hnone ↦ ?_, fun _ ↦ rfl⟩⟩
    have hresolve : resolve settings receipt (front ++ r :: back) = .ok found := by
      rw [resolve, hwith, hsame, hfound]
    exact absurd (passedOver_of_noneWinsBefore horder hfound hresolve hnone) hover

end ReceiptRules.Rule
