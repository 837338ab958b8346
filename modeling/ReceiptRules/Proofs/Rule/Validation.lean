import ReceiptRules.Proofs.Condition.Validation
import ReceiptRules.Proofs.Directive.Day
import ReceiptRules.Proofs.Engine.Notes
import ReceiptRules.Rule.Check

/-!
# Rules without problems

A rule in which the check finds no problem is well-formed, and all its actions are applied. So if a
list has no other rules, classifying a receipt by it notes no malformed rule and no action that was
not applied. What can still be noted are values: of the receipt, or in the lists of conditions.
-/

namespace ReceiptRules

open ArchiveNumber

/-! ## The check -/

namespace Rule

variable {settings : Settings} {r : Rule}

theorem conditionProblems_eq_ok_nil_iff {n : Nat} {conditions : List Condition} :
    conditionProblems settings n conditions = .ok [] ↔
      ∀ c ∈ conditions, c.problems settings = .ok [] := by
  induction conditions generalizing n with
  | nil => simp [conditionProblems]
  | cons c rest ih =>
    rw [conditionProblems, List.forall_mem_cons, ← ih (n := n + 1), Except.bind_eq_ok_iff]
    constructor
    · rintro ⟨first, hfirst, h⟩
      obtain ⟨others, hothers, h⟩ := Except.bind_eq_ok_iff.mp h
      obtain ⟨hnone, rfl⟩ := List.append_eq_nil_iff.mp (Except.ok.inj h)
      rw [List.map_eq_nil_iff.mp hnone] at hfirst
      exact ⟨hfirst, hothers⟩
    · rintro ⟨hfirst, hothers⟩
      exact ⟨[], hfirst, Except.bind_eq_ok_iff.mpr ⟨[], hothers, rfl⟩⟩

theorem actionProblems_eq_nil_iff {n : Nat} {actions : List Action} :
    actionProblems n actions = [] ↔ ∀ a ∈ actions, a.problem? = none := by
  induction actions generalizing n with
  | nil => simp [actionProblems]
  | cons a rest ih =>
    rw [actionProblems, List.append_eq_nil_iff, List.forall_mem_cons, ih, Option.toList_eq_nil_iff,
      Option.map_eq_none_iff]

/-- What a rule without problems is made of. -/
structure IsValid (settings : Settings) (r : Rule) : Prop where
  name : (Text.Blank.trim r.name).isEmpty = false
  conditions_ne_nil : r.conditions ≠ []
  conditions : ∀ c ∈ r.conditions, c.problems settings = .ok []
  actions_ne_nil : r.actions ≠ []
  actions : ∀ a ∈ r.actions, a.problem? = none

theorem isValid_of_problems (h : r.problems settings = .ok []) : r.IsValid settings := by
  obtain ⟨ofConditions, hconditions, h⟩ := Except.map_eq_ok_iff.mp h
  simp only [List.append_eq_nil_iff, ite_eq_right_iff, List.cons_ne_nil, imp_false,
    Bool.not_eq_true] at h
  obtain ⟨⟨⟨⟨hname, hsome⟩, hnone⟩, hactions⟩, hvalid⟩ := h
  refine ⟨hname, ?_, conditionProblems_eq_ok_nil_iff.mp (hnone ▸ hconditions), ?_,
    actionProblems_eq_nil_iff.mp hvalid⟩
  · simpa using hsome
  · simpa using hactions

theorem IsValid.wellFormed (h : r.IsValid settings) : r.WellFormed :=
  ⟨h.conditions_ne_nil, fun c hc ↦ Condition.supported_of_problems (h.conditions c hc)⟩

/-! ## What is noted about them -/

variable {receipt : Receipt} {rules : List Rule}

theorem Tried.malformedPredicate {winner : Option Rule} {logs : List (List Diagnostic)}
    (h : Tried settings receipt rules winner logs) (hwf : ∀ r ∈ rules, r.WellFormed) :
    ∀ log ∈ logs, ∀ n ∈ log, n.kind = .malformedPredicate := by
  have hnote : ∀ {r : Rule} {log : List Diagnostic}, r.WellFormed → r.Notes settings receipt log →
      ∀ n ∈ log, n.kind = .malformedPredicate := by
    intro r log hr hlog n hn
    cases hlog with
    | malformed reason hnot h => exact absurd hr hnot
    | combined v _ hv => exact (Condition.combine_notesOf hv n hn).2
  induction h with
  | nil => simp
  | found happlies hnotes =>
    simpa using hnote (hwf _ List.mem_cons_self) hnotes
  | next hover hnotes hrest ih =>
    rw [List.forall_mem_cons]
    exact ⟨hnote (hwf _ List.mem_cons_self) hnotes, ih fun x hx ↦ hwf x (List.mem_cons_of_mem _ hx)⟩

/-- Where all rules are well-formed, resolving notes predicates only. -/
theorem malformedPredicate_of_resolve {found : Resolution}
    (h : resolve settings receipt rules = .ok found) (hwf : ∀ r ∈ rules, r.WellFormed) :
    ∀ n ∈ found.notes, n.kind = .malformedPredicate := by
  obtain ⟨logs, htried, hnotes⟩ := firstMatch_tried h
  intro n hn
  rw [hnotes, List.mem_flatten] at hn
  obtain ⟨log, hlog, hn⟩ := hn
  refine htried.malformedPredicate (fun r hr ↦ ?_) log hlog n hn
  exact hwf r (List.mem_filter.mp (mem_ordered.mp hr)).1

theorem mem_of_resolve {found : Resolution} (h : resolve settings receipt rules = .ok found)
    (hwinner : found.winner = some r) : r ∈ rules := by
  obtain ⟨logs, htried, -⟩ := firstMatch_tried h
  rw [hwinner] at htried
  obtain ⟨front, rest, hsplit, -⟩ := htried.split_of_some
  have hr : r ∈ ordered (rules.filter fun r ↦ r.enabled) := by
    rw [hsplit]
    exact List.mem_append_right front List.mem_cons_self
  exact (List.mem_filter.mp (mem_ordered.mp hr)).1

end Rule

/-- The note says that an action was not applied. -/
def Diagnostic.SaysNotApplied (n : Diagnostic) : Prop :=
  n.kind = .malformedAction ∧
    ∃ (kind : ActionKind) (problem : String), n.message = s!"{kind.word} not applied: {problem}"

theorem Directive.not_saysNotApplied_dateNote (ruleId : Option String) (shown : String)
    (occasion : Occasion) : ¬ (dateNote ruleId shown occasion).SaysNotApplied := by
  rintro ⟨-, kind, problem, h⟩
  simp only [dateNote, toString] at h
  exact word_append_ne kind problem shown _ (h.symm.trans String.append_assoc)

/-- Valid actions leave no note but one on the date of the receipt. -/
theorem Directive.eq_dateNote_of_apply {settings : Settings} {ruleId : Option String}
    {receipt : Receipt} {occasion : Occasion} {actions : List Action} {d : Directive}
    (h : apply settings ruleId (some receipt) none occasion actions = .ok d)
    (hvalid : ∀ a ∈ actions, a.problem? = none) :
    ∀ n ∈ d.diagnostics, ∃ shown, n = dateNote ruleId shown occasion := by
  obtain ⟨notes, hnotes, hday⟩ := apply_diagnostics h
  have hnone : actions.filterMap (Action.note? ruleId) = [] := by
    rw [List.filterMap_eq_nil_iff]
    intro a ha
    rw [Action.note?, hvalid a ha, Option.map_none]
  intro n hn
  rw [hnotes, hnone, List.nil_append, mem_addNotes] at hn
  have hn : n ∈ notes := hn.resolve_left List.not_mem_nil
  split at hday
  · obtain ⟨day, hday⟩ := hday
    cases hday with
    | day | missing => cases hn
    | unread s hcontent => exact ⟨_, List.mem_singleton.mp hn⟩
  · rw [hday] at hn
    cases hn

namespace Engine

variable {settings : Settings} {occasion : Directive.Occasion} {rules : List Rule}
  {receipt : Receipt} {counters : Option Counters} {o : Outcome}

/-- Rules without problems are never noted, nor are their actions. -/
theorem notes_of_isValid (hvalid : ∀ r ∈ rules, r.IsValid settings)
    (h : (classify settings occasion rules receipt counters).1 = .ok o) :
    ∀ n ∈ o.notes ++ directiveNotes o, n.kind ≠ .malformedRule ∧ ¬ n.SaysNotApplied := by
  rcases hresult : classify settings occasion rules receipt counters with ⟨result, moved⟩
  rw [hresult] at h
  subst h
  obtain ⟨found, hresolve, hclassified⟩ := classified_of_classify hresult
  have hwf : ∀ r ∈ rules, r.WellFormed := fun r hr ↦ (hvalid r hr).wellFormed
  have hfound : ∀ n ∈ found.notes, n.kind ≠ .malformedRule ∧ ¬ n.SaysNotApplied := by
    intro n hn
    have hkind := Rule.malformedPredicate_of_resolve hresolve hwf n hn
    refine ⟨fun hrule ↦ ?_, fun hsays ↦ ?_⟩
    · cases hkind.symm.trans hrule
    · cases hkind.symm.trans hsays.1
  have hdirective : ∀ {ruleId : Option String} {actions : List Action} {d numberedD : Directive}
      {moved : Option Counters}, (∀ a ∈ actions, a.problem? = none) →
      Directive.apply settings ruleId (some receipt) none occasion actions = .ok d →
      numbered d counters = (.ok numberedD, moved) →
      ∀ n ∈ numberedD.diagnostics, n.kind ≠ .malformedRule ∧ ¬ n.SaysNotApplied := by
    intro ruleId actions d numberedD moved hactions happly hnumbered n hn
    rw [diagnostics_of_numbered hnumbered] at hn
    obtain ⟨shown, rfl⟩ := Directive.eq_dateNote_of_apply happly hactions n hn
    exact ⟨nofun, Directive.not_saysNotApplied_dateNote ruleId shown occasion⟩
  intro n hn
  cases hclassified with
  | matched r d numberedD moved hwinner happly hnumbered =>
    have hr : r ∈ rules := Rule.mem_of_resolve hresolve hwinner
    have hlater := hdirective (hvalid r hr).actions happly hnumbered
    rcases List.mem_append.mp hn with hn | hn
    · rcases List.mem_append.mp hn with hn | hn
      · exact hfound n hn
      · exact hlater n hn
    · exact hlater n hn
  | bare hwinner hactions =>
    rcases List.mem_append.mp hn with hn | hn
    · exact hfound n hn
    · cases hn
  | default d numberedD moved hwinner hactions happly hnumbered =>
    rcases List.mem_append.mp hn with hn | hn
    · exact hfound n hn
    · exact hdirective problem?_defaultActions happly hnumbered n hn

end Engine

end ReceiptRules
