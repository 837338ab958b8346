import ReceiptRules.Engine
import ReceiptRules.Proofs.Directive.Notes
import ReceiptRules.Proofs.Rule.Resolution

/-!
# From the notes of a directive to those of the outcome

The outcome of a matched receipt has the notes of the rules that were tried and behind them those of
its directive. The default outcome has the former only. Since these all name a rule, what the
default actions note never reaches the outcome, and they note just one thing: a date that cannot be
read, where a number is asked for.
-/

namespace ReceiptRules

open ArchiveNumber

namespace Rule

variable {settings : Settings} {receipt : Receipt} {rules : List Rule}

theorem Tried.ruleId {winner : Option Rule} {logs : List (List Diagnostic)}
    (h : Tried settings receipt rules winner logs) :
    ∀ log ∈ logs, ∀ n ∈ log, n.ruleId.isSome = true := by
  induction h with
  | nil => simp
  | found happlies hnotes => simpa using fun n hn ↦ by simp [hnotes.ruleId n hn]
  | next hover hnotes hrest ih =>
    rw [List.forall_mem_cons]
    exact ⟨fun n hn ↦ by simp [hnotes.ruleId n hn], ih⟩

/-- Whatever resolving notes is about a rule. -/
theorem ruleId_of_resolve {found : Resolution} (h : resolve settings receipt rules = .ok found) :
    ∀ n ∈ found.notes, n.ruleId.isSome = true := by
  obtain ⟨logs, htried, hnotes⟩ := firstMatch_tried h
  intro n hn
  rw [hnotes, List.mem_flatten] at hn
  obtain ⟨log, hlog, hn⟩ := hn
  exact htried.ruleId log hlog n hn

end Rule

namespace Engine

variable {settings : Settings} {occasion : Directive.Occasion} {rules : List Rule}
  {receipt : Receipt} {counters moved : Option Counters} {o : Outcome}

/-! ## How a classification comes out -/

/-- The ways in which a classification succeeds: by a rule that matches, without any directive, or
by the default actions. -/
inductive Classified (settings : Settings) (occasion : Directive.Occasion) (receipt : Receipt)
    (counters : Option Counters) (found : Rule.Resolution) : Outcome → Option Counters → Prop
  | matched (r : Rule) (d numberedD : Directive) (moved : Option Counters)
    (hwinner : found.winner = some r)
    (happly : Directive.apply settings (some r.id) (some receipt) none occasion r.actions = .ok d)
    (hnumbered : numbered d counters = (.ok numberedD, moved)) :
    Classified settings occasion receipt counters found
      (matchedOutcome receipt r found.notes numberedD) moved
  | bare (hwinner : found.winner = none) (hactions : defaultActions settings = []) :
    Classified settings occasion receipt counters found
      (unmatchedOutcome receipt found.notes none) counters
  | default (d numberedD : Directive) (moved : Option Counters) (hwinner : found.winner = none)
    (hactions : defaultActions settings ≠ [])
    (happly : Directive.apply settings none (some receipt) none occasion
      (defaultActions settings) = .ok d)
    (hnumbered : numbered d counters = (.ok numberedD, moved)) :
    Classified settings occasion receipt counters found
      (unmatchedOutcome receipt found.notes (some numberedD)) moved

theorem numbered_of_finish {build : Directive → Outcome} {d : Directive}
    (h : finish counters build d = (.ok o, moved)) :
    ∃ numberedD, numbered d counters = (.ok numberedD, moved) ∧ o = build numberedD := by
  unfold finish at h
  rcases hnumbered : numbered d counters with ⟨result, moved'⟩
  rw [hnumbered] at h
  cases result with
  | error e => cases h
  | ok numberedD =>
    cases h
    exact ⟨numberedD, rfl, rfl⟩

theorem classified_of_classify
    (h : classify settings occasion rules receipt counters = (.ok o, moved)) :
    ∃ found, Rule.resolve settings receipt rules = .ok found ∧
      Classified settings occasion receipt counters found o moved := by
  unfold classify at h
  split at h
  · cases h
  · next r notes hresolve =>
    refine ⟨_, hresolve, ?_⟩
    split at h
    · cases h
    · next d happly =>
      obtain ⟨numberedD, hnumbered, rfl⟩ := numbered_of_finish h
      exact .matched r d numberedD moved rfl happly hnumbered
  · next notes hresolve =>
    refine ⟨_, hresolve, ?_⟩
    split at h
    · next hactions =>
      cases h
      exact .bare rfl hactions
    · next hactions =>
      split at h
      · cases h
      · next d happly =>
        obtain ⟨numberedD, hnumbered, rfl⟩ := numbered_of_finish h
        exact .default d numberedD moved rfl hactions happly hnumbered

/-- Numbering changes nothing but the number. -/
theorem exists_of_numbered {d numberedD : Directive}
    (h : numbered d counters = (.ok numberedD, moved)) :
    ∃ number, numberedD = { d with archiveNumber := number } := by
  cases counters with
  | none =>
    cases h
    exact ⟨d.archiveNumber, rfl⟩
  | some c =>
    have hassign : (d.assignNumber c).1 = .ok numberedD := congrArg Prod.fst h
    unfold Directive.assignNumber at hassign
    split at hassign
    · cases hassign
      exact ⟨_, rfl⟩
    · split at hassign
      · cases hassign
        exact ⟨_, rfl⟩
      · split at hassign
        · cases hassign
          exact ⟨_, rfl⟩
        · cases hassign

theorem diagnostics_of_numbered {d numberedD : Directive}
    (h : numbered d counters = (.ok numberedD, moved)) : numberedD.diagnostics = d.diagnostics := by
  obtain ⟨number, rfl⟩ := exists_of_numbered h
  rfl

/-! ## The default actions -/

theorem problem?_defaultActions :
    ∀ a ∈ defaultActions settings, a.problem? = none := by
  intro a ha
  rw [defaultActions, List.mem_append] at ha
  rcases ha with ha | ha
  · cases hcategory : settings.unmatchedCategory with
    | none => simp [hcategory] at ha
    | some category =>
      rw [hcategory, Option.map_some, Option.mem_toList, Option.some.injEq] at ha
      rw [← ha]
      cases category <;> decide
  · split at ha
    · rw [List.mem_singleton.mp ha]
      decide
    · cases ha

theorem filterMap_note?_defaultActions (ruleId : Option String) :
    (defaultActions settings).filterMap (Action.note? ruleId) = [] := by
  rw [List.filterMap_eq_nil_iff]
  intro a ha
  rw [Action.note?, problem?_defaultActions a ha]
  rfl

theorem asksNumber_defaultActions_iff :
    (∃ a ∈ defaultActions settings, a.AsksNumber) ↔ settings.unmatchedNumbered = true := by
  constructor
  · rintro ⟨a, ha, hkind, -⟩
    rw [defaultActions, List.mem_append] at ha
    rcases ha with ha | ha
    · obtain ⟨category, -, rfl⟩ := Option.map_eq_some_iff.mp (Option.mem_toList.mp ha)
      cases hkind
    · by_contra hnumbered
      rw [if_neg hnumbered] at ha
      cases ha
  · intro hnumbered
    refine ⟨⟨.generateArchiveNumber, ""⟩, ?_, by decide⟩
    rw [defaultActions, hnumbered, List.mem_append]
    exact .inr List.mem_cons_self

/-! ## Notes that are lost -/

/-- The notes on the directive of an outcome. -/
def directiveNotes (o : Outcome) : List Diagnostic :=
  (o.directive.map Directive.diagnostics).getD []

/-- What is noted about the rules while a receipt is resolved. -/
def ruleNotes (settings : Settings) (rules : List Rule) (receipt : Receipt) : List Diagnostic :=
  match Rule.resolve settings receipt rules with
  | .ok found => found.notes
  | .error _ => []

/-- No rule matches the receipt, the settings ask for a number, and the date that the number should
go by cannot be read. -/
structure LosesNotes (settings : Settings) (receipt : Receipt) (o : Outcome) : Prop where
  unmatched : o.matched = false
  numbered : settings.unmatchedNumbered = true
  unread : ∃ s, Field.date.contentIn settings receipt = .ok (some (.text s))

/-- The notes on a default directive are all about the date, and name no rule. -/
theorem diagnostics_of_default {d : Directive}
    (h : Directive.apply settings none (some receipt) none occasion (defaultActions settings) =
      .ok d) :
    (∀ n ∈ d.diagnostics, n.ruleId = none) ∧
      (d.diagnostics ≠ [] ↔ settings.unmatchedNumbered = true ∧
        ∃ s, Field.date.contentIn settings receipt = .ok (some (.text s))) := by
  obtain ⟨notes, hnotes, hday⟩ := Directive.apply_diagnostics h
  rw [filterMap_note?_defaultActions, List.nil_append, Option.getD_none] at hnotes
  simp only [asksNumber_defaultActions_iff] at hday
  by_cases hnumbered : settings.unmatchedNumbered = true
  · rw [if_pos hnumbered] at hday
    obtain ⟨day, hday⟩ := hday
    cases hday with
    | day date hcontent =>
      rw [hnotes]
      simp [hcontent]
    | missing hcontent =>
      rw [hnotes]
      simp [hcontent]
    | unread s hcontent =>
      rw [hnotes]
      simp [hcontent, hnumbered, Directive.dateNote]
  · rw [if_neg hnumbered] at hday
    rw [hnotes, hday]
    simp [hnumbered]

/-- The notes of an outcome are those about the rules and, for a matched receipt, those on its
directive. On the directive of any other receipt there are notes only where they are lost, and these
are not among the notes of the outcome. -/
structure Noted (settings : Settings) (rules : List Rule) (receipt : Receipt) (o : Outcome) : Prop where
  notes : o.notes =
    ruleNotes settings rules receipt ++ if o.matched then directiveNotes o else []
  lost_iff : o.matched = false → (directiveNotes o ≠ [] ↔ LosesNotes settings receipt o)
  notMem : o.matched = false → ∀ n ∈ directiveNotes o, n ∉ o.notes

theorem noted_of_classify
    (h : classify settings occasion rules receipt counters = (.ok o, moved)) :
    Noted settings rules receipt o := by
  obtain ⟨found, hresolve, hclassified⟩ := classified_of_classify h
  have hrules : ruleNotes settings rules receipt = found.notes := by rw [ruleNotes, hresolve]
  cases hclassified with
  | matched r d numberedD moved hwinner happly hnumbered =>
    refine ⟨?_, fun hunmatched ↦ (nomatch hunmatched), fun hunmatched ↦ (nomatch hunmatched)⟩
    rw [hrules]
    rfl
  | bare hwinner hactions =>
    refine ⟨?_, fun _ ↦ ⟨fun hne ↦ absurd rfl hne, fun hloses ↦ ?_⟩, fun _ n hn ↦ (nomatch hn)⟩
    · rw [hrules]
      exact (List.append_nil _).symm
    · obtain ⟨a, ha, -⟩ := asksNumber_defaultActions_iff.mpr hloses.numbered
      rw [hactions] at ha
      cases ha
  | default d numberedD moved hwinner hactions happly hnumbered =>
    obtain ⟨hruleId, hlost⟩ := diagnostics_of_default happly
    rw [← diagnostics_of_numbered hnumbered] at hruleId hlost
    refine ⟨?_, fun _ ↦ ⟨fun hne ↦ ?_, fun hloses ↦ ?_⟩, fun _ n hn hmem ↦ ?_⟩
    · rw [hrules]
      exact (List.append_nil _).symm
    · obtain ⟨hasked, hunread⟩ := hlost.mp hne
      exact ⟨rfl, hasked, hunread⟩
    · exact hlost.mpr ⟨hloses.numbered, hloses.unread⟩
    · have hsome := Rule.ruleId_of_resolve hresolve n hmem
      rw [hruleId n hn] at hsome
      cases hsome

namespace Noted

/-- All notes on the directive are among those of the outcome, unless they are lost. -/
theorem mem_notes_iff (h : Noted settings rules receipt o) :
    (∀ n ∈ directiveNotes o, n ∈ o.notes) ↔ ¬ LosesNotes settings receipt o := by
  cases hmatched : o.matched with
  | true =>
    refine iff_of_true (fun n hn ↦ ?_) fun hloses ↦ ?_
    · rw [h.notes, hmatched, if_pos rfl]
      exact List.mem_append_right _ hn
    · have hunmatched := hloses.unmatched
      rw [hmatched] at hunmatched
      cases hunmatched
  | false =>
    rw [← h.lost_iff hmatched, not_not, List.eq_nil_iff_forall_not_mem]
    constructor
    · intro hreach n hn
      exact h.notMem hmatched n hn (hreach n hn)
    · intro hnone n hn
      exact absurd hn (hnone n)

/-- The outcome has no more notes than rules and directive together, and as many unless some are
lost. -/
theorem length_notes (h : Noted settings rules receipt o) :
    o.notes.length ≤ (ruleNotes settings rules receipt).length + (directiveNotes o).length ∧
      (o.notes.length = (ruleNotes settings rules receipt).length + (directiveNotes o).length ↔
        ¬ LosesNotes settings receipt o) := by
  rw [← h.mem_notes_iff, h.notes, List.length_append]
  cases hmatched : o.matched with
  | true =>
    rw [if_pos rfl]
    exact ⟨Nat.le_refl _, iff_of_true rfl fun n hn ↦ List.mem_append_right _ hn⟩
  | false =>
    rw [if_neg Bool.false_ne_true, List.length_nil, List.append_nil]
    refine ⟨by omega, fun hlength ↦ ?_, fun hreach ↦ ?_⟩
    · have hnone : directiveNotes o = [] := List.eq_nil_of_length_eq_zero (by omega)
      simp [hnone]
    · have hnone : directiveNotes o = [] := by
        refine List.eq_nil_iff_forall_not_mem.mpr fun n hn ↦ h.notMem hmatched n hn ?_
        rw [h.notes, hmatched, if_neg Bool.false_ne_true, List.append_nil]
        exact hreach n hn
      rw [hnone]
      rfl

end Noted

end Engine

end ReceiptRules
