import ReceiptRules.Directive.Apply
import ReceiptRules.Proofs.Field.Content

/-!
# What applying actions notes

Applying actions notes the actions that are not valid and, if one of the valid ones asks for a
number, a date of the receipt that cannot be read. Nothing else is noted, and the notes join those
that the directive has from before.
-/

namespace ReceiptRules

namespace Action

/-- The note on an action that is not valid. -/
def note? (ruleId : Option String) (a : Action) : Option Diagnostic :=
  a.problem?.map fun problem ↦
    ⟨ruleId, .malformedAction, s!"{a.kind.word} not applied: {problem}"⟩

/-- The action is valid and asks for an archive number. -/
def AsksNumber (a : Action) : Prop := a.kind = .generateArchiveNumber ∧ a.problem? = none

instance (a : Action) : Decidable a.AsksNumber := inferInstanceAs (Decidable (_ ∧ _))

end Action

namespace Directive

open Text

variable {settings : Settings} {ruleId : Option String} {receipt : Option Receipt}
  {base : Option Directive} {occasion : Occasion} {actions : List Action}
  {known notes notes' : List Diagnostic} {n : Diagnostic}

/-! ## Drafts -/

theorem Draft.take_notes (draft : Draft) (a : Action) : (draft.take a).notes = draft.notes := by
  unfold Draft.take
  cases a.kind <;> rfl

theorem Draft.take_diagnostics (draft : Draft) (a : Action) :
    (draft.take a).directive.diagnostics = draft.directive.diagnostics := by
  unfold Draft.take
  cases a.kind <;> rfl

theorem Draft.take_numberRequested (draft : Draft) (a : Action) :
    (draft.take a).numberRequested =
      (draft.numberRequested || decide (a.kind = .generateArchiveNumber)) := by
  unfold Draft.take
  cases a.kind <;> simp

theorem Draft.step_notes (ruleId : Option String) (draft : Draft) (a : Action) :
    (draft.step ruleId a).notes = draft.notes ++ (a.note? ruleId).toList := by
  unfold Draft.step Action.note?
  cases a.problem? with
  | none => simpa using draft.take_notes a
  | some problem => rfl

theorem Draft.step_diagnostics (ruleId : Option String) (draft : Draft) (a : Action) :
    (draft.step ruleId a).directive.diagnostics = draft.directive.diagnostics := by
  unfold Draft.step
  cases a.problem? with
  | none => exact draft.take_diagnostics a
  | some problem => rfl

theorem Draft.step_numberRequested (ruleId : Option String) (draft : Draft) (a : Action) :
    (draft.step ruleId a).numberRequested = (draft.numberRequested || decide a.AsksNumber) := by
  unfold Draft.step
  cases hproblem : a.problem? with
  | none => simpa [Action.AsksNumber, hproblem] using draft.take_numberRequested a
  | some problem => simp [Action.AsksNumber, hproblem]

theorem Draft.foldl_step_notes (ruleId : Option String) (draft : Draft) (actions : List Action) :
    (actions.foldl (Draft.step ruleId) draft).notes =
      draft.notes ++ actions.filterMap (Action.note? ruleId) := by
  induction actions generalizing draft with
  | nil => simp
  | cons a rest ih =>
    rw [List.foldl_cons, ih, Draft.step_notes, List.append_assoc, List.filterMap_cons]
    cases a.note? ruleId <;> rfl

theorem Draft.foldl_step_diagnostics (ruleId : Option String) (draft : Draft)
    (actions : List Action) :
    (actions.foldl (Draft.step ruleId) draft).directive.diagnostics =
      draft.directive.diagnostics := by
  induction actions generalizing draft with
  | nil => rfl
  | cons a rest ih => rw [List.foldl_cons, ih, Draft.step_diagnostics]

theorem Draft.foldl_step_numberRequested (ruleId : Option String) (draft : Draft)
    (actions : List Action) :
    (actions.foldl (Draft.step ruleId) draft).numberRequested = true ↔
      draft.numberRequested = true ∨ ∃ a ∈ actions, a.AsksNumber := by
  induction actions generalizing draft with
  | nil => simp
  | cons a rest ih =>
    rw [List.foldl_cons, ih, Draft.step_numberRequested]
    simp [or_assoc]

/-! ## Adding notes -/

theorem mem_addNotes {known notes : List Diagnostic} {n : Diagnostic} :
    n ∈ addNotes known notes ↔ n ∈ known ∨ n ∈ notes := by
  unfold addNotes
  induction notes generalizing known with
  | nil => simp
  | cons note rest ih =>
    rw [List.foldl_cons, ih, List.mem_cons]
    split
    · next hknown =>
      rw [List.contains_iff_mem] at hknown
      constructor
      · rintro (h | h)
        · exact .inl h
        · exact .inr (.inr h)
      · rintro (h | rfl | h)
        · exact .inl h
        · exact .inl hknown
        · exact .inr h
    · rw [List.mem_append, List.mem_singleton, or_assoc]

theorem addNotes_of_subset {known notes : List Diagnostic} (h : ∀ n ∈ notes, n ∈ known) :
    addNotes known notes = known := by
  unfold addNotes
  induction notes with
  | nil => rfl
  | cons note rest ih =>
    obtain ⟨hnote, hrest⟩ := List.forall_mem_cons.mp h
    rw [List.foldl_cons, if_pos (List.contains_iff_mem.mpr hnote), ih hrest]

theorem addNotes_singleton (known : List Diagnostic) (n : Diagnostic) :
    addNotes known [n] = if n ∈ known then known else known ++ [n] := by
  simp [addNotes]

theorem addNotes_append (known notes notes' : List Diagnostic) :
    addNotes known (notes ++ notes') = addNotes (addNotes known notes) notes' :=
  List.foldl_append

/-- The notes that are added are those that were not there, each once. -/
theorem exists_addNotes (known notes : List Diagnostic) :
    ∃ added, addNotes known notes = known ++ added ∧ added.Nodup ∧
      ∀ n, n ∈ added ↔ n ∈ notes ∧ n ∉ known := by
  induction notes generalizing known with
  | nil => exact ⟨[], (List.append_nil known).symm, List.nodup_nil, by simp⟩
  | cons note rest ih =>
    rw [← List.singleton_append, addNotes_append, addNotes_singleton]
    by_cases hknown : note ∈ known
    · obtain ⟨added, hadded, hnodup, hmem⟩ := ih known
      rw [if_pos hknown]
      refine ⟨added, hadded, hnodup, fun n ↦ ?_⟩
      rw [hmem, List.singleton_append, List.mem_cons, or_and_right]
      exact (or_iff_right fun h ↦ h.2 (h.1 ▸ hknown)).symm
    · obtain ⟨added, hadded, hnodup, hmem⟩ := ih (known ++ [note])
      refine ⟨note :: added, ?_, ?_, fun n ↦ ?_⟩
      · rw [if_neg hknown, hadded, List.append_assoc, List.singleton_append]
      · exact List.nodup_cons.mpr ⟨fun h ↦ ((hmem note).mp h).2 (by simp), hnodup⟩
      · rw [List.mem_cons, hmem, List.singleton_append, List.mem_cons]
        by_cases hn : n = note
        · simp [hn, hknown]
        · simp [hn]

theorem addNotes_perm (h : ∀ n, n ∈ notes ↔ n ∈ notes') :
    (addNotes known notes).Perm (addNotes known notes') := by
  obtain ⟨added, hadded, hnodup, hmem⟩ := exists_addNotes known notes
  obtain ⟨added', hadded', hnodup', hmem'⟩ := exists_addNotes known notes'
  rw [hadded, hadded']
  refine ((List.perm_ext_iff_of_nodup hnodup hnodup').mpr fun n ↦ ?_).append_left known
  rw [hmem, hmem', h]

@[simp] theorem addNotes_nil (known : List Diagnostic) : addNotes known [] = known := rfl

@[simp] theorem addNotes_nil_singleton (n : Diagnostic) : addNotes [] [n] = [n] := rfl

/-! ## The day of a receipt -/

/-- What the date of a receipt is taken for: a day, nothing, or a text that is noted. -/
inductive DayOf (settings : Settings) (ruleId : Option String) (receipt : Receipt)
    (occasion : Occasion) : Option Date → List Diagnostic → Prop
  | day (d : Date) (h : Field.date.contentIn settings receipt = .ok (some (.date d))) :
    DayOf settings ruleId receipt occasion (some d) []
  | missing (h : Field.date.contentIn settings receipt = .ok none) :
    DayOf settings ruleId receipt occasion none []
  | unread (s : String) (h : Field.date.contentIn settings receipt = .ok (some (.text s))) :
    DayOf settings ruleId receipt occasion none [dateNote ruleId (Quoted.quote s) occasion]

theorem dayOf_of_receiptDay {receipt : Receipt} {day : Option Date} {notes : List Diagnostic}
    (h : receiptDay settings ruleId (some receipt) occasion = .ok (day, notes)) :
    DayOf settings ruleId receipt occasion day notes := by
  obtain ⟨content, hcontent, h⟩ := Except.map_eq_ok_iff.mp h
  rcases Field.contentIn_date_cases hcontent with rfl | ⟨d, rfl⟩ | ⟨s, rfl⟩
  · cases h
    exact .missing hcontent
  · cases h
    exact .day d hcontent
  · cases h
    exact .unread s hcontent

/-! ## Applied actions -/

/-- The draft that all actions together make, starting from another directive if there is one. -/
def draftOf (ruleId : Option String) (base : Option Directive) (actions : List Action) : Draft :=
  actions.foldl (Draft.step ruleId) ⟨base.getD { ruleId := ruleId }, false, none, []⟩

/-- Without a valid action that asks for a number, the date of the receipt is not looked at. -/
theorem apply_of_not_asksNumber (hasks : ¬ ∃ a ∈ actions, a.AsksNumber) :
    apply settings ruleId receipt base occasion actions =
      .ok { (draftOf ruleId base actions).directive with
        tags := Ordered.ofList (draftOf ruleId base actions).directive.tags
        diagnostics := addNotes (base.getD { ruleId := ruleId }).diagnostics
          (actions.filterMap (Action.note? ruleId)) } := by
  have hrequested := Draft.foldl_step_numberRequested ruleId
    ⟨base.getD { ruleId := ruleId }, false, none, []⟩ actions
  simp only [Bool.false_eq_true, false_or, hasks, iff_false, Bool.not_eq_true] at hrequested
  simp only [apply, hrequested, Bool.false_eq_true, if_false, Draft.foldl_step_diagnostics,
    Draft.foldl_step_notes, List.nil_append, draftOf]

/-- A valid action that asks for a number makes a request for the day of the receipt, or for that of
the occasion where the receipt has none. -/
theorem apply_of_asksNumber (hasks : ∃ a ∈ actions, a.AsksNumber) :
    apply settings ruleId receipt base occasion actions =
      (receiptDay settings ruleId receipt occasion).map fun (day, notes) ↦
        { (draftOf ruleId base actions).directive with
          tags := Ordered.ofList (draftOf ruleId base actions).directive.tags
          numberRequest := some ⟨ArchiveNumber.periodOf (day.getD occasion.day),
            (draftOf ruleId base actions).requestCode settings⟩
          diagnostics := addNotes (base.getD { ruleId := ruleId }).diagnostics
            (actions.filterMap (Action.note? ruleId) ++ notes) } := by
  have hrequested := (Draft.foldl_step_numberRequested ruleId
    ⟨base.getD { ruleId := ruleId }, false, none, []⟩ actions).mpr (.inr hasks)
  simp only [apply, hrequested, if_true, Draft.foldl_step_diagnostics, Draft.foldl_step_notes,
    List.nil_append, draftOf]

/-- Whatever applying actions notes comes from an invalid action or from the date of the receipt. -/
theorem apply_diagnostics {receipt : Receipt} {d : Directive}
    (h : apply settings ruleId (some receipt) base occasion actions = .ok d) :
    ∃ notes, d.diagnostics = addNotes (base.getD { ruleId := ruleId }).diagnostics
        (actions.filterMap (Action.note? ruleId) ++ notes) ∧
      if ∃ a ∈ actions, a.AsksNumber then ∃ day, DayOf settings ruleId receipt occasion day notes
      else notes = [] := by
  by_cases hasks : ∃ a ∈ actions, a.AsksNumber
  · rw [apply_of_asksNumber hasks] at h
    obtain ⟨⟨day, notes⟩, hday, rfl⟩ := Except.map_eq_ok_iff.mp h
    refine ⟨notes, rfl, ?_⟩
    rw [if_pos hasks]
    exact ⟨day, dayOf_of_receiptDay hday⟩
  · rw [apply_of_not_asksNumber hasks] at h
    cases h
    refine ⟨[], ?_, ?_⟩
    · rw [List.append_nil]
    · rw [if_neg hasks]

end Directive

end ReceiptRules
