import ReceiptRules.Proofs.Directive.Values
import ReceiptRules.Proofs.Text.Ordered

/-!
# Directives updated by actions

The fold over the actions is given field by field: a value is that of the last valid action of the kind
that sets it, or else the one from before, and the tags of all valid actions join those from before. The
directive that actions have made is not changed by applying them to it once more.
-/

namespace ReceiptRules

open Text

namespace Directive

open ReceiptRules.Action

variable {settings : Settings} {ruleId : Option String} {receipt : Option Receipt}
  {base : Option Directive} {occasion : Occasion} {actions : List Action} {d : Directive}

/-! ## One update for all actions -/

/-- An empty value asks for the default location. -/
def archiveRequest? (value : String) : Option ArchiveRequest :=
  some ⟨if value.isEmpty then none else some value⟩

/-- The values and tags that actions put into a directive. -/
def updated (d : Directive) (actions : List Action) : Directive :=
  { d with
    category := (last? .setCategory Category.ofWord? actions).or d.category
    subCategory := (last? .setSubCategory SubCategory.ofWord? actions).or d.subCategory
    expenseType := (last? .setExpenseType some actions).or d.expenseType
    department := (last? .setDepartment some actions).or d.department
    project := (last? .setProject some actions).or d.project
    tags := d.tags ++ (values .addTag actions).flatMap tagsOf
    archive := (last? .archive archiveRequest? actions).or d.archive }

@[simp] theorem updated_nil (d : Directive) : d.updated [] = d := by
  simp [updated, last?, values]

theorem updated_append (d : Directive) (front back : List Action) :
    d.updated (front ++ back) = (d.updated front).updated back := by
  simp only [updated, last?_append, values_append, List.flatMap_append, List.append_assoc,
    Option.or_assoc]

theorem Draft.step_directive (ruleId : Option String) (draft : Draft) (a : Action) :
    (draft.step ruleId a).directive = draft.directive.updated [a] := by
  unfold Draft.step
  cases hproblem : a.problem? with
  | some problem => simp [updated, values_singleton, last?_singleton, hproblem]
  | none =>
    obtain ⟨kind, value⟩ := a
    -- A word that is not known would clear the category; a valid action has none.
    cases kind with
    | setCategory =>
      have hword := ofWord?_isSome_of_setCategory rfl hproblem
      simp [Draft.take, updated, values_singleton, last?_singleton, hproblem,
        Option.or_of_isSome hword]
    | setSubCategory =>
      have hword := ofWord?_isSome_of_setSubCategory rfl hproblem
      simp [Draft.take, updated, values_singleton, last?_singleton, hproblem,
        Option.or_of_isSome hword]
    | _ =>
      simp [Draft.take, updated, values_singleton, last?_singleton, hproblem, archiveRequest?]

theorem Draft.step_code (ruleId : Option String) (draft : Draft) (a : Action) :
    (draft.step ruleId a).code = (last? .generateArchiveNumber namedCode? [a]).or draft.code := by
  unfold Draft.step
  cases hproblem : a.problem? with
  | some problem => simp [last?_singleton, hproblem]
  | none =>
    obtain ⟨kind, value⟩ := a
    cases kind with
    | generateArchiveNumber =>
      simp only [Draft.take, last?_singleton, namedCode?, hproblem, and_self, if_true]
      by_cases hvalue : (Blank.trim value).isEmpty = true
      · simp only [hvalue, if_true, Option.none_or]
      · rw [Bool.not_eq_true] at hvalue
        have hcode := codeOf?_isSome_of_asksNumber ⟨rfl, hproblem⟩ hvalue
        simp only [hvalue, Bool.false_eq_true, if_false]
        exact (Option.or_of_isSome hcode).symm
    | _ => simp [Draft.take, last?_singleton]

theorem Draft.foldl_step_directive (ruleId : Option String) (draft : Draft)
    (actions : List Action) :
    (actions.foldl (Draft.step ruleId) draft).directive = draft.directive.updated actions := by
  induction actions generalizing draft with
  | nil => exact (updated_nil _).symm
  | cons a rest ih =>
    rw [List.foldl_cons, ih, Draft.step_directive, ← updated_append]
    rfl

theorem Draft.foldl_step_code (ruleId : Option String) (draft : Draft) (actions : List Action) :
    (actions.foldl (Draft.step ruleId) draft).code =
      (last? .generateArchiveNumber namedCode? actions).or draft.code := by
  induction actions generalizing draft with
  | nil => rfl
  | cons a rest ih =>
    rw [List.foldl_cons, ih, Draft.step_code, ← Option.or_assoc, ← last?_append]
    rfl

theorem draftOf_directive (ruleId : Option String) (base : Option Directive)
    (actions : List Action) :
    (draftOf ruleId base actions).directive = (base.getD { ruleId := ruleId }).updated actions :=
  Draft.foldl_step_directive ruleId _ actions

theorem draftOf_code (ruleId : Option String) (base : Option Directive) (actions : List Action) :
    (draftOf ruleId base actions).code = last? .generateArchiveNumber namedCode? actions := by
  rw [draftOf, Draft.foldl_step_code, Option.or_none]

theorem draftOf_requestCode (settings : Settings) (ruleId : Option String)
    (base : Option Directive) (actions : List Action) :
    (draftOf ruleId base actions).requestCode settings =
      ((last? .generateArchiveNumber namedCode? actions).or
        (((base.getD { ruleId := ruleId }).updated actions).category.map
          Category.archiveCode)).getD settings.defaultCode := by
  rw [Draft.requestCode, draftOf_code, draftOf_directive]
  cases (last? .generateArchiveNumber namedCode? actions).or
    (((base.getD { ruleId := ruleId }).updated actions).category.map Category.archiveCode) <;> rfl

/-! ## The same actions once more -/

/-- An update once more adds nothing but the same tags, whatever else has been put into the directive. -/
theorem updated_again (d : Directive) (actions : List Action) (tags : List String)
    (request : Option NumberKey) (notes : List Diagnostic) :
    ({ d.updated actions with
        tags := tags, numberRequest := request, diagnostics := notes } : Directive).updated actions =
      { d.updated actions with
        tags := tags ++ (values .addTag actions).flatMap tagsOf
        numberRequest := request
        diagnostics := notes } := by
  simp only [updated, ← Option.or_assoc, Option.or_self]

theorem ofList_tags_again (d : Directive) (actions : List Action) :
    Ordered.ofList (Ordered.ofList (d.updated actions).tags ++
      (values .addTag actions).flatMap tagsOf) = Ordered.ofList (d.updated actions).tags := by
  apply Ordered.ofList_congr
  intro t
  simp only [updated, List.mem_append, Ordered.mem_ofList, or_assoc, or_self]

theorem addNotes_again (known notes : List Diagnostic) :
    addNotes (addNotes known notes) notes = addNotes known notes :=
  addNotes_of_subset fun _ hn ↦ mem_addNotes.mpr (.inr hn)

/-- Actions that are applied once more, to the directive that they have made, do not change it. -/
theorem apply_apply (h : apply settings ruleId receipt base occasion actions = .ok d) :
    apply settings ruleId receipt (some d) occasion actions = .ok d := by
  by_cases hasks : ∃ a ∈ actions, a.AsksNumber
  · rw [apply_of_asksNumber hasks] at h ⊢
    obtain ⟨⟨day, notes⟩, hday, rfl⟩ := Except.map_eq_ok_iff.mp h
    -- The second request is for the same category, since the update has it in place already.
    simp only [hday, Except.map, draftOf_requestCode, draftOf_directive, Option.getD_some,
      updated_again, ofList_tags_again, addNotes_again]
  · rw [apply_of_not_asksNumber hasks] at h ⊢
    cases h
    simp only [draftOf_directive, Option.getD_some, updated_again, ofList_tags_again,
      addNotes_again]

/-- Actions for a taxi fare, one of them of an unknown category. -/
def taxiActions : List Action := [
  ⟨.addTag, " trip,taxi"⟩, ⟨.setCategory, "TAXI"⟩, ⟨.setCategory, " EXPENSE "⟩,
  ⟨.generateArchiveNumber, ""⟩]

/-- The second time, neither the notes nor the tags become more. -/
theorem apply_apply_taxi :
    let receipt : Receipt := ⟨none, [("DATE", .text "soon")]⟩
    let occasion : Occasion := ⟨none, ⟨2024, 7, 15, by decide⟩⟩
    ∃ d, apply {} (some "taxi") receipt none occasion taxiActions = .ok d ∧
      d.tags = ["taxi", "trip"] ∧ d.diagnostics.length = 2 ∧
      d.numberRequest = some ⟨"2024-07", "EXP"⟩ ∧
      apply {} (some "taxi") receipt (some d) occasion taxiActions = .ok d := by
  intro receipt occasion
  obtain ⟨d, hd, htags, hnotes, hrequest⟩ :
      ∃ d, apply {} (some "taxi") receipt none occasion taxiActions = .ok d ∧
        d.tags = ["taxi", "trip"] ∧ d.diagnostics.length = 2 ∧
        d.numberRequest = some ⟨"2024-07", "EXP"⟩ :=
    ⟨_, rfl, by decide +kernel, by decide +kernel, by decide +kernel⟩
  exact ⟨d, hd, htags, hnotes, hrequest, apply_apply hd⟩

end Directive

end ReceiptRules
