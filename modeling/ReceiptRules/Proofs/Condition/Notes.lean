import ReceiptRules.Condition.Combine
import ReceiptRules.Proofs.Except

/-!
# Notes of conditions

Whatever a condition notes is a malformed predicate of the rule for which it is evaluated, and so
are the notes of all conditions of a rule together.
-/

namespace ReceiptRules

/-- Every note is a malformed predicate of the rule. -/
def Verdict.NotesOf (ruleId : Option String) (v : Verdict) : Prop :=
  ∀ n ∈ v.notes, n.ruleId = ruleId ∧ n.kind = .malformedPredicate

namespace Verdict

theorem notesOf_silent (ruleId : Option String) (holds : Bool) :
    NotesOf ruleId ⟨holds, []⟩ := by
  simp [NotesOf]

theorem notesOf_predicateNote (ruleId : Option String) (holds : Bool) (message : String) :
    NotesOf ruleId ⟨holds, [Condition.predicateNote ruleId message]⟩ := by
  simp [NotesOf, Condition.predicateNote]

theorem NotesOf.append {ruleId : Option String} {a b : Verdict} (ha : a.NotesOf ruleId)
    (hb : b.NotesOf ruleId) (holds : Bool) : NotesOf ruleId ⟨holds, a.notes ++ b.notes⟩ := by
  intro n hn
  rcases List.mem_append.mp hn with hn | hn
  · exact ha n hn
  · exact hb n hn

end Verdict

namespace Condition

open Verdict

variable {settings : Settings} {ruleId : Option String} {receipt : Receipt} {c : Condition}
  {content : Content} {v : Verdict}

/-! ## One condition -/

theorem orderVerdict_notesOf {test : Ordering → Bool}
    (h : orderVerdict settings ruleId c content test = .ok v) : v.NotesOf ruleId := by
  obtain ⟨sides, -, rfl⟩ := Except.map_eq_ok_iff.mp h
  cases sides with
  | ok order => exact notesOf_silent ruleId _
  | error message => exact notesOf_predicateNote ruleId _ message

theorem equalityVerdict_notesOf {wanted : Bool}
    (h : equalityVerdict settings ruleId c content wanted = .ok v) : v.NotesOf ruleId := by
  unfold equalityVerdict at h
  split at h
  · cases h
    exact notesOf_silent ruleId _
  · exact orderVerdict_notesOf h

theorem memberOn_notesOf {α : Type} {scale : Scale α} {left : α} {items : List String}
    (h : memberOn scale ruleId c left items = .ok v) : v.NotesOf ruleId := by
  induction items generalizing v with
  | nil =>
    cases h
    exact notesOf_silent ruleId _
  | cons item rest ih =>
    obtain ⟨parsed, -, h⟩ := Except.bind_eq_ok_iff.mp h
    obtain ⟨others, hothers, h⟩ := Except.bind_eq_ok_iff.mp h
    cases parsed with
    | none =>
      cases h
      exact (notesOf_predicateNote ruleId others.holds _).append (ih hothers) others.holds
    | some right =>
      cases h
      exact fun n hn ↦ ih hothers n hn

theorem listOn_notesOf {α : Type} {scale : Scale α} {items : List String}
    (h : listOn scale ruleId c content items = .ok v) : v.NotesOf ruleId := by
  obtain ⟨left, -, h⟩ := Except.bind_eq_ok_iff.mp h
  cases left with
  | none =>
    cases h
    exact notesOf_predicateNote ruleId _ _
  | some left => exact memberOn_notesOf h

theorem listVerdict_notesOf (h : listVerdict settings ruleId c content = .ok v) :
    v.NotesOf ruleId := by
  obtain ⟨items, -, h⟩ := Except.bind_eq_ok_iff.mp h
  split at h
  · cases h
    exact notesOf_silent ruleId _
  · exact listOn_notesOf h
  · exact listOn_notesOf h

theorem patternVerdict_notesOf (h : patternVerdict ruleId c content = .ok v) :
    v.NotesOf ruleId := by
  unfold patternVerdict at h
  split at h
  · cases h
    exact notesOf_silent ruleId _
  · cases h
    exact notesOf_predicateNote ruleId _ _
  · cases h

theorem verdictOn_notesOf (h : verdictOn settings ruleId c content = .ok v) :
    v.NotesOf ruleId := by
  unfold verdictOn at h
  cases hop : c.operator with
  | equals | notEquals =>
    rw [hop] at h
    exact equalityVerdict_notesOf h
  | greaterThan | lessThan | greaterEqual | lessEqual =>
    rw [hop] at h
    exact orderVerdict_notesOf h
  | contains | notContains | startsWith | endsWith =>
    rw [hop] at h
    cases h
    exact notesOf_silent ruleId _
  | regex =>
    rw [hop] at h
    exact patternVerdict_notesOf h
  | inList =>
    rw [hop] at h
    exact listVerdict_notesOf h

theorem evaluate_notesOf (h : evaluate settings ruleId receipt c = .ok v) :
    v.NotesOf ruleId := by
  obtain ⟨content, -, h⟩ := Except.bind_eq_ok_iff.mp h
  cases content with
  | none =>
    cases h
    exact notesOf_silent ruleId _
  | some content => exact verdictOn_notesOf h

/-! ## All conditions of a rule -/

theorem combineFrom_notesOf {outcome : Bool} {joiner : Joiner} {conditions : List Condition}
    (h : combineFrom settings ruleId receipt outcome joiner conditions = .ok v) :
    v.NotesOf ruleId := by
  induction conditions generalizing outcome joiner v with
  | nil =>
    cases h
    exact notesOf_silent ruleId _
  | cons c rest ih =>
    unfold combineFrom at h
    split at h
    · exact ih h
    · obtain ⟨first, hfirst, h⟩ := Except.bind_eq_ok_iff.mp h
      obtain ⟨others, hothers, h⟩ := Except.bind_eq_ok_iff.mp h
      cases h
      exact (evaluate_notesOf hfirst).append (ih hothers) others.holds

theorem combine_notesOf {conditions : List Condition}
    (h : combine settings ruleId receipt conditions = .ok v) : v.NotesOf ruleId := by
  cases conditions with
  | nil =>
    cases h
    exact notesOf_silent ruleId _
  | cons c rest =>
    obtain ⟨first, hfirst, h⟩ := Except.bind_eq_ok_iff.mp h
    obtain ⟨others, hothers, h⟩ := Except.bind_eq_ok_iff.mp h
    cases h
    exact (evaluate_notesOf hfirst).append (combineFrom_notesOf hothers) others.holds

/-! ## When no condition fails -/

theorem combineFrom_eq_ok (outcome : Bool) (joiner : Joiner) {conditions : List Condition}
    (h : ∀ c ∈ conditions, ∃ v, evaluate settings ruleId receipt c = .ok v) :
    ∃ v, combineFrom settings ruleId receipt outcome joiner conditions = .ok v := by
  induction conditions generalizing outcome joiner with
  | nil => exact ⟨⟨outcome, []⟩, rfl⟩
  | cons c rest ih =>
    have hrest := fun d hd ↦ h d (List.mem_cons_of_mem c hd)
    unfold combineFrom
    split
    · exact ih outcome c.joiner hrest
    · obtain ⟨first, hfirst⟩ := h c List.mem_cons_self
      obtain ⟨others, hothers⟩ := ih first.holds c.joiner hrest
      refine ⟨⟨others.holds, first.notes ++ others.notes⟩, ?_⟩
      rw [Except.bind_eq_ok_iff]
      refine ⟨first, hfirst, ?_⟩
      rw [Except.bind_eq_ok_iff]
      exact ⟨others, hothers, rfl⟩

/-- Conditions that can each be evaluated can be combined. -/
theorem combine_eq_ok {conditions : List Condition}
    (h : ∀ c ∈ conditions, ∃ v, evaluate settings ruleId receipt c = .ok v) :
    ∃ v, combine settings ruleId receipt conditions = .ok v := by
  cases conditions with
  | nil => exact ⟨⟨false, []⟩, rfl⟩
  | cons c rest =>
    obtain ⟨first, hfirst⟩ := h c List.mem_cons_self
    obtain ⟨others, hothers⟩ := combineFrom_eq_ok first.holds c.joiner
      fun d hd ↦ h d (List.mem_cons_of_mem c hd)
    refine ⟨⟨others.holds, first.notes ++ others.notes⟩, ?_⟩
    rw [combine, Except.bind_eq_ok_iff]
    refine ⟨first, hfirst, ?_⟩
    rw [Except.bind_eq_ok_iff]
    exact ⟨others, hothers, rfl⟩

end Condition

end ReceiptRules
