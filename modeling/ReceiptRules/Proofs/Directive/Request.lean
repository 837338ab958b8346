import ReceiptRules.Directive.Apply
import ReceiptRules.Proofs.ArchiveNumber.WrittenForm
import ReceiptRules.Proofs.Except

/-!
# Requests for archive numbers

Applying actions never gives an archive number by itself. What it may leave on the directive is a
request for one, whose period has the written form and whose code is fit to be one, unless it is the
code that stands in for a missing one.
-/

namespace ReceiptRules

open ArchiveNumber

/-! ## Codes -/

theorem Category.isCode_archiveCode (c : Category) : IsCode c.archiveCode := by
  cases c <;> decide

theorem ArchiveNumber.isCode_of_codeOf? {s code : String} (h : codeOf? s = some code) :
    IsCode code := by
  simp only [codeOf?] at h
  split at h
  · next c hc =>
    cases h
    exact c.isCode_archiveCode
  · split at h
    · next hcode =>
      simp only [Bool.and_eq_true, Bool.not_eq_true', List.isEmpty_eq_false_iff] at hcode
      rw [Option.some.injEq] at h
      rw [← h]
      exact ⟨hcode.1.1, List.all_eq_true.mp hcode.2⟩
    · cases h

namespace Directive

/-! ## Drafts -/

/-- What taking actions leaves alone or keeps in form. -/
structure Draft.Extends (start draft : Draft) : Prop where
  archiveNumber : draft.directive.archiveNumber = start.directive.archiveNumber
  numberRequest : draft.directive.numberRequest = start.directive.numberRequest
  code : draft.code = start.code ∨ ∀ code, draft.code = some code → IsCode code

namespace Draft.Extends

variable {start middle draft : Draft}

theorem refl (start : Draft) : Draft.Extends start start := ⟨rfl, rfl, .inl rfl⟩

theorem trans (h : Draft.Extends start middle) (h' : Draft.Extends middle draft) :
    Draft.Extends start draft where
  archiveNumber := h'.archiveNumber.trans h.archiveNumber
  numberRequest := h'.numberRequest.trans h.numberRequest
  code := by
    rcases h'.code with hcode | hcode
    · rw [hcode]
      exact h.code
    · exact .inr hcode

end Draft.Extends

theorem Draft.take_extends (draft : Draft) (a : Action) : draft.Extends (draft.take a) := by
  unfold Draft.take
  cases a.kind with
  | generateArchiveNumber =>
    refine ⟨rfl, rfl, ?_⟩
    by_cases hvalue : (Text.Blank.trim a.value).isEmpty = true
    · left
      simp [hvalue]
    · right
      intro code hcode
      exact isCode_of_codeOf? (by simpa [hvalue] using hcode)
  | _ => exact ⟨rfl, rfl, .inl rfl⟩

theorem Draft.step_extends (ruleId : Option String) (draft : Draft) (a : Action) :
    draft.Extends (draft.step ruleId a) := by
  unfold Draft.step
  split
  · exact ⟨rfl, rfl, .inl rfl⟩
  · exact draft.take_extends a

theorem Draft.foldl_step_extends (ruleId : Option String) (draft : Draft) (actions : List Action) :
    draft.Extends (actions.foldl (Draft.step ruleId) draft) := by
  induction actions generalizing draft with
  | nil => exact .refl draft
  | cons a rest ih => exact (draft.step_extends ruleId a).trans (ih (draft.step ruleId a))

/-- The code of a request is that of an action, of a category, or the one that stands in for it. -/
theorem Draft.requestCode_isCode (settings : Settings) {draft : Draft}
    (h : ∀ code, draft.code = some code → IsCode code) :
    IsCode (draft.requestCode settings) ∨ draft.requestCode settings = settings.defaultCode := by
  unfold Draft.requestCode
  cases hcode : draft.code with
  | some code => exact .inl (h code hcode)
  | none =>
    cases draft.directive.category with
    | some c => exact .inl c.isCode_archiveCode
    | none => exact .inr rfl

/-! ## Applied actions -/

/-- A request that a directive may carry under some settings. -/
structure IsRequest (settings : Settings) (key : NumberKey) : Prop where
  period : IsPeriod key.period
  code : IsCode key.code ∨ key.code = settings.defaultCode

theorem IsRequest.isKey {settings : Settings} {key : NumberKey} (h : IsRequest settings key)
    (hdefault : IsCode settings.defaultCode) : IsKey key := by
  refine ⟨h.period, ?_⟩
  rcases h.code with hcode | hcode
  · exact hcode
  · rw [hcode]
    exact hdefault

theorem apply_unnumbered {settings : Settings} {ruleId : Option String} {receipt : Option Receipt}
    {occasion : Occasion} {actions : List Action} {d : Directive}
    (h : apply settings ruleId receipt none occasion actions = .ok d) :
    d.archiveNumber = none ∧ ∀ key, d.numberRequest = some key → IsRequest settings key := by
  have hkeeps := Draft.foldl_step_extends ruleId ⟨{ ruleId := ruleId }, false, none, []⟩ actions
  simp only [apply, Option.getD_none] at h
  split at h
  · obtain ⟨⟨day, notes⟩, -, rfl⟩ := Except.map_eq_ok_iff.mp h
    refine ⟨hkeeps.archiveNumber, ?_⟩
    intro key hkey
    cases hkey
    refine ⟨isPeriod_periodOf _, Draft.requestCode_isCode settings fun code hcode ↦ ?_⟩
    rcases hkeeps.code with hstart | hform
    · rw [hstart] at hcode
      cases hcode
    · exact hform code hcode
  · cases h
    refine ⟨hkeeps.archiveNumber, ?_⟩
    intro key hkey
    rw [show _ = none from hkeeps.numberRequest] at hkey
    cases hkey

end Directive

end ReceiptRules
