import ReceiptRules.Proofs.Directive.Notes

/-!
# What applying actions tolerates

Actions that are not valid have no effect but their notes: the directive is that of the valid
actions. Under the default settings applying actions fails only where a number is asked for and the
date of the receipt is a value without a text.
-/

namespace ReceiptRules.Directive

variable {settings : Settings} {ruleId : Option String} {base : Option Directive}
  {occasion : Occasion} {actions : List Action} {d : Directive}

/-! ## Valid actions -/

def Draft.unnoted (draft : Draft) : Draft := { draft with notes := [] }

theorem Draft.take_unnoted (draft : Draft) (a : Action) :
    draft.unnoted.take a = (draft.take a).unnoted := by
  unfold Draft.take
  generalize Text.Blank.trim a.value = value
  cases a.kind <;> rfl

/-- Apart from the notes, a draft is made by the valid actions. -/
theorem Draft.foldl_step_filter (ruleId : Option String) (draft : Draft) (actions : List Action) :
    (actions.filter fun a ↦ a.problem?.isNone).foldl (Draft.step ruleId) draft.unnoted =
      (actions.foldl (Draft.step ruleId) draft).unnoted := by
  induction actions generalizing draft with
  | nil => rfl
  | cons a rest ih =>
    cases hproblem : a.problem? with
    | none =>
      have hstep (x : Draft) : x.step ruleId a = x.take a := by simp only [Draft.step, hproblem]
      rw [List.filter_cons_of_pos (by simp [hproblem]), List.foldl_cons, List.foldl_cons, hstep,
        hstep, Draft.take_unnoted, ih]
    | some problem =>
      rw [List.filter_cons_of_neg (by simp [hproblem]), List.foldl_cons, ← ih]
      simp only [Draft.step, hproblem]
      rfl

theorem draftOf_filter (ruleId : Option String) (base : Option Directive) (actions : List Action) :
    draftOf ruleId base (actions.filter fun a ↦ a.problem?.isNone) =
      (draftOf ruleId base actions).unnoted :=
  Draft.foldl_step_filter ruleId ⟨base.getD { ruleId := ruleId }, false, none, []⟩ actions

theorem asksNumber_filter_iff :
    (∃ a ∈ actions.filter fun a ↦ a.problem?.isNone, a.AsksNumber) ↔
      ∃ a ∈ actions, a.AsksNumber := by
  constructor
  · rintro ⟨a, ha, hasks⟩
    exact ⟨a, (List.mem_filter.mp ha).1, hasks⟩
  · rintro ⟨a, ha, hasks⟩
    exact ⟨a, List.mem_filter.mpr ⟨ha, by simp [hasks.2]⟩, hasks⟩

/-- Apart from its notes, a directive is that of the valid actions. -/
theorem exists_apply_filter {receipt : Option Receipt}
    (h : apply settings ruleId receipt base occasion actions = .ok d) :
    ∃ notes, apply settings ruleId receipt base occasion
      (actions.filter fun a ↦ a.problem?.isNone) = .ok { d with diagnostics := notes } := by
  by_cases hasks : ∃ a ∈ actions, a.AsksNumber
  · rw [apply_of_asksNumber hasks] at h
    obtain ⟨⟨day, notes⟩, hday, rfl⟩ := Except.map_eq_ok_iff.mp h
    rw [apply_of_asksNumber (asksNumber_filter_iff.mpr hasks), hday, draftOf_filter]
    exact ⟨_, rfl⟩
  · rw [apply_of_not_asksNumber hasks] at h
    cases h
    rw [apply_of_not_asksNumber (fun hfilter ↦ hasks (asksNumber_filter_iff.mp hfilter)),
      draftOf_filter]
    exact ⟨_, rfl⟩

/-- The note on an action that is not valid is on the directive. -/
theorem mem_diagnostics_of_note? {receipt : Receipt} {a : Action} {n : Diagnostic}
    (h : apply settings ruleId (some receipt) base occasion actions = .ok d) (ha : a ∈ actions)
    (hn : a.note? ruleId = some n) : n ∈ d.diagnostics := by
  obtain ⟨notes, hnotes, -⟩ := apply_diagnostics h
  rw [hnotes, mem_addNotes, List.mem_append]
  exact .inr (.inl (List.mem_filterMap.mpr ⟨a, ha, hn⟩))

/-! ## The date of the receipt -/

/-- A date that cannot be read is noted where a number is asked for. -/
theorem dateNote_mem_diagnostics {receipt : Receipt} {s : String}
    (h : apply settings ruleId (some receipt) base occasion actions = .ok d)
    (hasks : ∃ a ∈ actions, a.AsksNumber)
    (hs : Field.date.contentIn settings receipt = .ok (some (.text s))) :
    dateNote ruleId (Text.Quoted.quote s) occasion ∈ d.diagnostics := by
  obtain ⟨notes, hnotes, hday⟩ := apply_diagnostics h
  rw [if_pos hasks] at hday
  obtain ⟨day, hday⟩ := hday
  rw [hnotes, mem_addNotes, List.mem_append]
  refine .inr (.inr ?_)
  cases hday with
  | day date hcontent => cases hs.symm.trans hcontent
  | missing hcontent => cases hs.symm.trans hcontent
  | unread s' hcontent =>
    cases hs.symm.trans hcontent
    exact List.mem_singleton_self _

/-- Under the default settings, only the date of the receipt stops the applying of actions. -/
theorem apply_eq_error_iff {receipt : Receipt} {e : Failure} :
    apply {} ruleId (some receipt) base occasion actions = .error e ↔
      (∃ a ∈ actions, a.AsksNumber) ∧ receipt.Unwritten .date ∧ e = .unwritableNumber := by
  by_cases hasks : ∃ a ∈ actions, a.AsksNumber
  · rw [apply_of_asksNumber hasks, Except.map_eq_error_iff, receiptDay, Except.map_eq_error_iff,
      Field.contentIn_eq_error_iff_unwritten]
    exact (and_iff_right hasks).symm
  · rw [apply_of_not_asksNumber hasks]
    exact iff_of_false nofun fun h ↦ hasks h.1

end ReceiptRules.Directive
