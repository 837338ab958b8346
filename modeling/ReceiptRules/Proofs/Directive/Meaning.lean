import ReceiptRules.Proofs.Directive.Failures
import ReceiptRules.Proofs.Directive.Update
import ReceiptRules.Proofs.Text.Digit

/-!
# The meaning of actions

Under the default settings the directive that actions make is described part by part, without the fold:
each part by the valid actions of its own kind, and the notes by the actions that are not valid. So an
invalid action adds its note, if the note is not there yet, and no more, and actions of different kinds
may change places. No directive is made only if a number is asked for and the date of the receipt is to
be taken as text and has none.
-/

namespace ReceiptRules

open Text

/-! ## The day of a receipt -/

/-- The day that the date of a receipt stands for under the default settings. -/
def Receipt.day? (receipt : Receipt) : Option Date :=
  match Settings.dateOf? {} (receipt.get .date) with
  | .ok found => found
  | .error _ => none

theorem Receipt.day?_eq_of_dateOf? {receipt : Receipt} {found : Option Date}
    (h : Settings.dateOf? {} (receipt.get .date) = .ok found) : receipt.day? = found := by
  rw [day?, h]

namespace Directive

open ReceiptRules.Action

variable {settings : Settings} {ruleId : Option String} {receipt : Option Receipt}
  {base : Option Directive} {occasion : Occasion} {actions actions' : List Action} {d : Directive}
  {notes : List Diagnostic} {n : Diagnostic}

/-- The note on a date that is there, but stands for no day. -/
def IsDateNote (ruleId : Option String) (receipt : Option Receipt) (occasion : Occasion)
    (n : Diagnostic) : Prop :=
  ∃ r, receipt = some r ∧ r.get .date ≠ .null ∧ r.day? = none ∧
    n = dateNote ruleId (Quoted.quote (r.get .date).asText) occasion

theorem eq_of_receiptDay {day : Option Date}
    (h : receiptDay {} ruleId receipt occasion = .ok (day, notes)) :
    day = receipt.bind Receipt.day? ∧
      ∀ n, n ∈ notes ↔ IsDateNote ruleId receipt occasion n := by
  cases receipt with
  | none =>
    cases h
    simp [IsDateNote]
  | some receipt =>
    simp only [Option.bind_some, IsDateNote, Option.some.injEq, exists_eq_left']
    cases dayOf_of_receiptDay h with
    | missing hcontent =>
      have hnull := Field.contentIn_eq_none_iff.mp hcontent
      have hday : receipt.day? = none := Receipt.day?_eq_of_dateOf? (by rw [hnull]; rfl)
      simp [hnull, hday]
    | day d hcontent =>
      obtain ⟨hnull, hfound | ⟨-, -, htext⟩⟩ := Field.contentIn_eq_some_iff.mp hcontent
      · obtain ⟨d', hd', hdate⟩ := Field.contentOf?_date_eq_some_iff.mp hfound
        cases hdate
        simp [Receipt.day?_eq_of_dateOf? hd']
      · cases htext
    | unread s hcontent =>
      obtain ⟨hnull, hfound | ⟨hfound, -, htext⟩⟩ := Field.contentIn_eq_some_iff.mp hcontent
      · obtain ⟨d', -, hdate⟩ := Field.contentOf?_date_eq_some_iff.mp hfound
        cases hdate
      · cases htext
        obtain ⟨found, hday, hnone⟩ := Except.map_eq_ok_iff.mp hfound
        have hday' : receipt.day? = none := by
          rw [Receipt.day?_eq_of_dateOf? hday, Option.map_eq_none_iff.mp hnone]
        simp [hnull, hday']

/-! ## Other actions with the same values -/

theorem updated_congr (h : ∀ kind, values kind actions' = values kind actions) (d : Directive) :
    d.updated actions' = d.updated actions := by
  simp only [updated, last?, h]

/-- Apart from the notes, a directive depends on the values of the valid actions of each kind. -/
theorem exists_apply_of_values (hvalues : ∀ kind, values kind actions' = values kind actions)
    (h : apply settings ruleId receipt base occasion actions = .ok d) :
    ∃ late, d.diagnostics = addNotes (base.getD { ruleId := ruleId }).diagnostics
        (actions.filterMap (note? ruleId) ++ late) ∧
      apply settings ruleId receipt base occasion actions' = .ok { d with
        diagnostics := addNotes (base.getD { ruleId := ruleId }).diagnostics
          (actions'.filterMap (note? ruleId) ++ late) } := by
  have hasks' : (∃ a ∈ actions', a.AsksNumber) ↔ ∃ a ∈ actions, a.AsksNumber := by
    rw [asksNumber_iff_values, asksNumber_iff_values, hvalues]
  have hcode : last? .generateArchiveNumber namedCode? actions' =
      last? .generateArchiveNumber namedCode? actions := by rw [last?, last?, hvalues]
  by_cases hasks : ∃ a ∈ actions, a.AsksNumber
  · rw [apply_of_asksNumber hasks] at h
    obtain ⟨⟨day, notes⟩, hday, rfl⟩ := Except.map_eq_ok_iff.mp h
    refine ⟨notes, rfl, ?_⟩
    rw [apply_of_asksNumber (hasks'.mpr hasks), hday]
    simp only [Except.map, draftOf_requestCode, draftOf_directive, updated_congr hvalues, hcode]
  · rw [apply_of_not_asksNumber hasks] at h
    cases h
    refine ⟨[], by rw [List.append_nil], ?_⟩
    rw [apply_of_not_asksNumber (mt hasks'.mp hasks), List.append_nil]
    simp only [draftOf_directive, updated_congr hvalues]

/-- An action that is not valid adds its note, unless the note is there. -/
theorem exists_apply_without {before after : List Action} {a : Action}
    (h : apply settings ruleId receipt base occasion (before ++ a :: after) = .ok d)
    (hn : a.note? ruleId = some n) :
    ∃ d', apply settings ruleId receipt base occasion (before ++ after) = .ok d' ∧
      d = { d' with diagnostics := d.diagnostics } ∧
      d.diagnostics.Perm
        (if n ∈ d'.diagnostics then d'.diagnostics else d'.diagnostics ++ [n]) := by
  have hvalues (kind : ActionKind) :
      values kind (before ++ after) = values kind (before ++ a :: after) := by
    obtain ⟨problem, hproblem, -⟩ := Option.map_eq_some_iff.mp hn
    simp [values, hproblem]
  obtain ⟨late, hnotes, happly⟩ := exists_apply_of_values hvalues h
  refine ⟨_, happly, rfl, ?_⟩
  rw [hnotes, ← addNotes_singleton, ← addNotes_append]
  refine addNotes_perm fun m ↦ ?_
  simp only [List.filterMap_append, List.filterMap_cons, hn, List.mem_append, List.mem_cons,
    List.mem_nil_iff, or_false]
  tauto

theorem exists_apply_of_sameByKind (hsame : SameByKind actions' actions)
    (h : apply settings ruleId receipt base occasion actions = .ok d) :
    ∃ d', apply settings ruleId receipt base occasion actions' = .ok d' ∧
      d' = { d with diagnostics := d'.diagnostics } ∧ d'.diagnostics.Perm d.diagnostics := by
  obtain ⟨late, hnotes, happly⟩ := exists_apply_of_values hsame.values_eq h
  refine ⟨_, happly, rfl, ?_⟩
  rw [hnotes]
  refine addNotes_perm fun n ↦ ?_
  simp only [List.mem_append, List.mem_filterMap, hsame.mem_iff]

/-! ## Part by part -/

/-- The request for a number that the actions make, given the category that they lead to. -/
def requestFor (receipt : Option Receipt) (occasion : Occasion) (actions : List Action)
    (category : Option Category) : NumberKey where
  period := ArchiveNumber.periodOf
    ((receipt.bind Receipt.day?).getD (occasion.asOf.getD occasion.today))
  code := ((code? actions).or (category.map Category.archiveCode)).getD (Settings.defaultCode {})

/-- What actions make of a directive under the default settings. -/
structure Means (noteId : Option String) (receipt : Option Receipt) (start : Directive)
    (occasion : Occasion) (actions : List Action) (d : Directive) : Prop where
  ruleId : d.ruleId = start.ruleId
  category : d.category.map Category.word =
    (values .setCategory actions).getLast?.or (start.category.map Category.word)
  subCategory : d.subCategory.map SubCategory.word =
    (values .setSubCategory actions).getLast?.or (start.subCategory.map SubCategory.word)
  expenseType : d.expenseType = (values .setExpenseType actions).getLast?.or start.expenseType
  department : d.department = (values .setDepartment actions).getLast?.or start.department
  project : d.project = (values .setProject actions).getLast?.or start.project
  tagsOrdered : d.tags.Pairwise (· < ·)
  tags : ∀ t, t ∈ d.tags ↔ t ∈ start.tags ∨
    ∃ a ∈ actions, a.kind = .addTag ∧ a.problem? = none ∧ IsTag a.value t
  archive : d.archive = ((actions.filter fun a ↦ a.kind = .archive).getLast?.bind
    fun a ↦ archiveRequest? (Blank.trim a.value)).or start.archive
  numberRequest : d.numberRequest =
    if ∃ a ∈ actions, a.AsksNumber then some (requestFor receipt occasion actions d.category)
    else start.numberRequest
  archiveNumber : d.archiveNumber = start.archiveNumber
  diagnostics : ∃ added, d.diagnostics = start.diagnostics ++ added ∧ added.Nodup ∧
    ∀ n, n ∈ added ↔ ((∃ a ∈ actions, a.note? noteId = some n) ∨
      (∃ a ∈ actions, a.AsksNumber) ∧ IsDateNote noteId receipt occasion n) ∧
        n ∉ start.diagnostics

/-- The parts of a directive that do not depend on whether a number is asked for. -/
theorem means_of_updated {noteId : Option String} {start : Directive} {request : Option NumberKey}
    (hrequest : request = if ∃ a ∈ actions, a.AsksNumber then
        some (requestFor receipt occasion actions (start.updated actions).category)
      else start.numberRequest)
    (hnotes : ∀ n, n ∈ notes ↔ (∃ a ∈ actions, a.AsksNumber) ∧
      IsDateNote noteId receipt occasion n) :
    Means noteId receipt start occasion actions
      { start.updated actions with
        tags := Ordered.ofList (start.updated actions).tags
        numberRequest := request
        diagnostics := addNotes start.diagnostics
          (actions.filterMap (note? noteId) ++ notes) } where
  ruleId := rfl
  category := by rw [updated, Option.map_or, word_last?_setCategory]
  subCategory := by rw [updated, Option.map_or, word_last?_setSubCategory]
  expenseType := by rw [updated, last?_some]
  department := by rw [updated, last?_some .setDepartment]
  project := by rw [updated, last?_some .setProject]
  tagsOrdered := Ordered.pairwise_ofList _
  tags t := by rw [Ordered.mem_ofList, updated, List.mem_append, mem_flatMap_tagsOf]
  archive := by
    have hlast : last? .archive archiveRequest? actions =
        (values .archive actions).getLast?.bind archiveRequest? :=
      getLast?_filterMap_of_isSome fun _ _ ↦ rfl
    rw [updated, hlast, values_archive, List.getLast?_map, Option.bind_map]
    rfl
  numberRequest := hrequest
  archiveNumber := rfl
  diagnostics := by
    obtain ⟨added, hadded, hnodup, hmem⟩ := exists_addNotes start.diagnostics
      (actions.filterMap (note? noteId) ++ notes)
    refine ⟨added, hadded, hnodup, fun n ↦ ?_⟩
    rw [hmem, List.mem_append, List.mem_filterMap, hnotes]

theorem means_of_apply (h : apply {} ruleId receipt base occasion actions = .ok d) :
    Means ruleId receipt (base.getD { ruleId := ruleId }) occasion actions d := by
  by_cases hasks : ∃ a ∈ actions, a.AsksNumber
  · rw [apply_of_asksNumber hasks] at h
    obtain ⟨⟨day, notes⟩, hday, rfl⟩ := Except.map_eq_ok_iff.mp h
    obtain ⟨rfl, hnotes⟩ := eq_of_receiptDay hday
    simp only [draftOf_requestCode, draftOf_directive, last?_namedCode?]
    refine means_of_updated ?_ fun n ↦ ?_
    · rw [if_pos hasks]
      rfl
    · rw [hnotes, and_iff_right hasks]
  · rw [apply_of_not_asksNumber hasks] at h
    cases h
    simp only [draftOf_directive]
    rw [← List.append_nil (actions.filterMap (note? ruleId))]
    refine means_of_updated ?_ fun n ↦ ?_
    · rw [if_neg hasks]
      rfl
    · simp [hasks]

theorem exists_apply_none (ruleId : Option String) (base : Option Directive)
    (occasion : Occasion) (actions : List Action) :
    ∃ d, apply {} ruleId none base occasion actions = .ok d := by
  by_cases hasks : ∃ a ∈ actions, a.AsksNumber
  · exact ⟨_, apply_of_asksNumber hasks⟩
  · exact ⟨_, apply_of_not_asksNumber hasks⟩

/-- Under the default settings, actions fail or mean what they say: the failure and the directive are
given part by part, an invalid action does nothing but add its note, and only the order within each
kind matters. -/
theorem apply_means (ruleId : Option String) (receipt : Option Receipt) (base : Option Directive)
    (occasion : Occasion) (actions : List Action) :
    (∀ e, apply {} ruleId receipt base occasion actions = .error e ↔
      (∃ a ∈ actions, a.AsksNumber) ∧ (∃ r, receipt = some r ∧ r.Unwritten .date) ∧
        e = .unwritableNumber) ∧
    ∀ d, apply {} ruleId receipt base occasion actions = .ok d →
      Means ruleId receipt (base.getD { ruleId := ruleId }) occasion actions d ∧
      (∀ before a after n, actions = before ++ a :: after → a.note? ruleId = some n →
        ∃ d', apply {} ruleId receipt base occasion (before ++ after) = .ok d' ∧
          d = { d' with diagnostics := d.diagnostics } ∧
          d.diagnostics.Perm
            (if n ∈ d'.diagnostics then d'.diagnostics else d'.diagnostics ++ [n])) ∧
      ∀ actions', SameByKind actions' actions →
        ∃ d', apply {} ruleId receipt base occasion actions' = .ok d' ∧
          d' = { d with diagnostics := d'.diagnostics } ∧ d'.diagnostics.Perm d.diagnostics := by
  refine ⟨fun e ↦ ?_, fun d h ↦ ⟨means_of_apply h, ?_, fun actions' hsame ↦
    exists_apply_of_sameByKind hsame h⟩⟩
  · cases receipt with
    | some receipt => simp [apply_eq_error_iff]
    | none =>
      obtain ⟨d, hd⟩ := exists_apply_none ruleId base occasion actions
      simp [hd]
  · rintro before a after n rfl hn
    exact exists_apply_without h hn

/-- The same actions with the request for a number first. -/
def taxiActionsNumberedFirst : List Action := [
  ⟨.generateArchiveNumber, ""⟩, ⟨.addTag, " trip,taxi"⟩, ⟨.setCategory, "TAXI"⟩,
  ⟨.setCategory, " EXPENSE "⟩]

theorem apply_means_taxi :
    let receipt : Receipt := ⟨none, [("DATE", .text "2024/03/05")]⟩
    let occasion : Occasion := ⟨none, ⟨2024, 7, 15, by decide⟩⟩
    let unknown : Diagnostic := ⟨some "taxi", .malformedAction,
      "SET_CATEGORY not applied: unknown category 'TAXI'"⟩
    ∃ d, apply {} (some "taxi") receipt none occasion taxiActions = .ok d ∧
      d.numberRequest = some ⟨"2024-03", "EXP"⟩ ∧
      Means (some "taxi") receipt { ruleId := some "taxi" } occasion taxiActions d ∧
      (∃ d', apply {} (some "taxi") receipt none occasion (taxiActions.eraseIdx 1) = .ok d' ∧
        d = { d' with diagnostics := d.diagnostics } ∧
        d.diagnostics.Perm
          (if unknown ∈ d'.diagnostics then d'.diagnostics else d'.diagnostics ++ [unknown])) ∧
      ∃ d', apply {} (some "taxi") receipt none occasion taxiActionsNumberedFirst = .ok d' ∧
        d' = { d with diagnostics := d'.diagnostics } ∧ d'.diagnostics.Perm d.diagnostics := by
  intro receipt occasion unknown
  obtain ⟨d, hd, hrequest⟩ :
      ∃ d, apply {} (some "taxi") receipt none occasion taxiActions = .ok d ∧
        d.numberRequest = some ⟨"2024-03", "EXP"⟩ := ⟨_, rfl, by decide +kernel⟩
  obtain ⟨hmeans, hwithout, hsame⟩ :=
    (apply_means (some "taxi") receipt none occasion taxiActions).2 d hd
  refine ⟨d, hd, hrequest, hmeans, hwithout [⟨.addTag, " trip,taxi"⟩] _ _ unknown rfl ?_,
    hsame taxiActionsNumberedFirst fun kind ↦ ?_⟩
  · decide +kernel
  · cases kind <;> rfl

/-- A whole number that is too long to be written, as the date of a receipt. -/
def longDate : Receipt := ⟨none, [("DATE", .int (Nat.pow 10 WholeNumber.digitLimit : Nat))]⟩

/-- Numbering fails for a date without a text, and of two equal invalid actions one is noted. -/
theorem apply_exceptions :
    let occasion : Occasion := ⟨none, ⟨2024, 7, 15, by decide⟩⟩
    apply {} none (some longDate) none occasion [⟨.generateArchiveNumber, ""⟩] =
        .error .unwritableNumber ∧
      apply {} (some "R1") none none occasion
          [⟨.setCategory, "NOPE"⟩, ⟨.setCategory, "NOPE"⟩] =
        .ok { ruleId := some "R1"
              diagnostics := [⟨some "R1", .malformedAction,
                "SET_CATEGORY not applied: unknown category 'NOPE'"⟩] } := by
  intro occasion
  constructor
  · have hunwritten : longDate.Unwritten .date := ⟨rfl, WholeNumber.writable_of_ge le_rfl⟩
    exact apply_eq_error_iff.mpr
      ⟨⟨_, List.mem_singleton_self _, by decide⟩, hunwritten, rfl⟩
  · decide +kernel

end Directive

end ReceiptRules
