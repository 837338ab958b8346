import ReceiptRules.Proofs.Condition.Failures
import ReceiptRules.Proofs.Directive.Failures
import ReceiptRules.Proofs.Engine.Notes
import ReceiptRules.Proofs.Engine.Numbering
import ReceiptRules.Proofs.Rule.Turns

/-!
# What aborts a classification

Under the default settings a classification by any rules goes on over whatever cannot be decided: a
malformed rule is skipped, an undecidable condition does not hold, an action that is not valid is
left out, and each of them is noted. It is aborted in three cases, which no note stands for: by a
condition whose evaluation is stopped, by a date without a text where a number is asked for, and by
a number whose serial is too long to be written.
-/

namespace ReceiptRules.Engine

open ArchiveNumber Text Rule

variable {occasion : Directive.Occasion} {rules : List Rule} {receipt : Receipt}
  {counters moved : Option Counters} {o : Outcome}

/-! ## Numbers -/

/-- A directive without a number fails to be numbered exactly if the next serial is too long. -/
theorem finish_eq_error_iff {build : Directive → Outcome} {d : Directive} {e : Failure}
    (hbuild : Carries build) (hd : d.archiveNumber = none) :
    (finish counters build d).1 = .error e ↔ e = .unwritableSerial ∧ ∃ c key, counters = some c ∧
      d.numberRequest = some key ∧ WholeNumber.writable (c.current key + 1 : Nat) = false := by
  cases counters with
  | none => exact iff_of_false nofun fun ⟨_, _, _, h, _⟩ ↦ nomatch h
  | some c =>
    rw [finish_some hbuild hd, numberOutcome, hbuild.request]
    cases hkey : d.numberRequest with
    | none => simp
    | some key =>
      dsimp only
      constructor
      · intro h
        cases hwritable : WholeNumber.writable (c.current key + 1 : Nat) with
        | true =>
          rw [if_pos hwritable] at h
          cases h
        | false =>
          rw [if_neg (by rw [hwritable]; decide)] at h
          cases h
          exact ⟨rfl, c, key, rfl, rfl, hwritable⟩
      · rintro ⟨rfl, c', key', hc, hkey', hlong⟩
        cases hc
        cases hkey'
        rw [if_neg (by rw [hlong]; decide)]

/-! ## Aborted classifications -/

/-- What aborts the classification of a receipt under the default settings. -/
inductive Aborts (occasion : Directive.Occasion) (rules : List Rule) (receipt : Receipt)
    (counters : Option Counters) : Failure → Prop
  | condition (r : Rule) (i : Nat) (c : Condition) (e : Failure)
    (htried : IsTried {} receipt rules r i) (hwf : r.WellFormed) (hreaches : r.Reaches {} receipt c)
    (hstops : c.Stops receipt e) : Aborts occasion rules receipt counters e
  | date (r : Rule) (i : Nat) (htried : IsTried {} receipt rules r i)
    (happlies : r.Applies {} receipt) (hasks : ∃ a ∈ r.actions, a.AsksNumber)
    (hunwritten : receipt.Unwritten .date) :
    Aborts occasion rules receipt counters .unwritableNumber
  | serial (r : Rule) (i : Nat) (d : Directive) (c : Counters) (key : NumberKey)
    (htried : IsTried {} receipt rules r i) (happlies : r.Applies {} receipt)
    (happly : Directive.apply {} (some r.id) (some receipt) none occasion r.actions = .ok d)
    (hrequest : d.numberRequest = some key) (hcounters : counters = some c)
    (hlong : WholeNumber.writable (c.current key + 1 : Nat) = false) :
    Aborts occasion rules receipt counters .unwritableSerial

theorem classify_eq_error_iff {e : Failure} :
    (classify {} occasion rules receipt counters).1 = .error e ↔
      Aborts occasion rules receipt counters e := by
  constructor
  · intro h
    unfold classify at h
    split at h
    · next e' hresolve =>
      cases h
      obtain ⟨r, i, c, htried, hwf, hreaches, he⟩ := resolve_eq_error_iff.mp hresolve
      exact .condition r i c e htried hwf hreaches (Condition.evaluate_eq_error_iff.mp he)
    · next r notes hresolve =>
      obtain ⟨⟨i, htried⟩, happlies⟩ := exists_resolve_eq_some_iff.mp ⟨notes, hresolve⟩
      split at h
      · next e' happly =>
        cases h
        obtain ⟨hasks, hunwritten, rfl⟩ := Directive.apply_eq_error_iff.mp happly
        exact .date r i htried happlies hasks hunwritten
      · next d happly =>
        have hd := (Directive.apply_unnumbered happly).1
        obtain ⟨rfl, c, key, hcounters, hrequest, hlong⟩ :=
          (finish_eq_error_iff (carries_matchedOutcome receipt r notes) hd).mp h
        exact .serial r i d c key htried happlies happly hrequest hcounters hlong
    · next notes hresolve => cases h
  · intro h
    cases h with
    | condition r i c _ htried hwf hreaches hstops =>
      have hresolve := resolve_eq_error_iff.mpr
        ⟨r, i, c, htried, hwf, hreaches, Condition.evaluate_eq_error_iff.mpr hstops⟩
      rw [classify, hresolve]
    | date r i htried happlies hasks hunwritten =>
      obtain ⟨notes, hresolve⟩ := exists_resolve_eq_some_iff.mpr ⟨⟨i, htried⟩, happlies⟩
      have happly := @Directive.apply_eq_error_iff (some r.id) none occasion r.actions receipt
        .unwritableNumber
      rw [classify, hresolve]
      simp only [happly.mpr ⟨hasks, hunwritten, rfl⟩]
    | serial r i d c key htried happlies happly hrequest hcounters hlong =>
      obtain ⟨notes, hresolve⟩ := exists_resolve_eq_some_iff.mpr ⟨⟨i, htried⟩, happlies⟩
      have hd := (Directive.apply_unnumbered happly).1
      rw [classify, hresolve]
      simp only [happly]
      exact (finish_eq_error_iff (carries_matchedOutcome receipt r notes) hd).mpr
        ⟨rfl, c, key, hcounters, hrequest, hlong⟩

/-! ## Tolerated rules and values -/

/-- What an outcome under the default settings has for all that could not be decided: a note, and no
effect otherwise. -/
structure Tolerated (occasion : Directive.Occasion) (rules : List Rule) (receipt : Receipt)
    (o : Outcome) : Prop where
  skipped : ∀ r i, IsTried {} receipt rules r i → ¬ r.WellFormed →
    ∃ reason, r.malformedReason? = some reason ∧ skipNote r reason ∈ o.notes
  undecided : ∀ r i c, IsTried {} receipt rules r i → r.WellFormed → r.Reaches {} receipt c →
    c.UndecidableOn receipt → ∃ message,
      Condition.evaluate {} (some r.id) receipt c =
        .ok ⟨false, [Condition.predicateNote (some r.id) message]⟩ ∧
      Condition.predicateNote (some r.id) message ∈ o.notes
  unapplied : ∀ r i, IsTried {} receipt rules r i → r.Applies {} receipt →
    ∃ d notes, o.directive = some d ∧
      (∀ a ∈ r.actions, ∀ n, a.note? (some r.id) = some n → n ∈ o.notes) ∧
      Directive.apply {} (some r.id) (some receipt) none occasion
        (r.actions.filter fun a ↦ a.problem?.isNone) =
          .ok { d with archiveNumber := none, diagnostics := notes }
  undated : ∀ r i s, IsTried {} receipt rules r i → r.Applies {} receipt →
    (∃ a ∈ r.actions, a.AsksNumber) → Field.date.contentIn {} receipt = .ok (some (.text s)) →
    Directive.dateNote (some r.id) (Quoted.quote s) occasion ∈ o.notes

/-- Where the turn of a rule comes that applies, the outcome is made by the rule. -/
theorem exists_matched {found : Resolution} (hresolve : resolve {} receipt rules = .ok found)
    (hclassified : Classified {} occasion receipt counters found o moved) {r : Rule} {i : Nat}
    (htried : IsTried {} receipt rules r i) (happlies : r.Applies {} receipt) :
    ∃ d numberedD, Directive.apply {} (some r.id) (some receipt) none occasion r.actions = .ok d ∧
      numbered d counters = (.ok numberedD, moved) ∧
      o = matchedOutcome receipt r found.notes numberedD := by
  obtain ⟨notes, hsome⟩ := exists_resolve_eq_some_iff.mpr ⟨⟨i, htried⟩, happlies⟩
  cases hresolve.symm.trans hsome
  cases hclassified with
  | matched r' d numberedD moved hwinner happly hnumbered =>
    cases hwinner
    exact ⟨d, numberedD, happly, hnumbered, rfl⟩
  | bare hwinner | default _ _ _ hwinner => cases hwinner

theorem notes_of_classified {found : Resolution}
    (h : Classified {} occasion receipt counters found o moved) :
    ∀ n ∈ found.notes, n ∈ o.notes := by
  intro n hn
  cases h with
  | matched => exact List.mem_append_left _ hn
  | bare | default => exact hn

theorem tolerated_of_classify (h : (classify {} occasion rules receipt counters).1 = .ok o) :
    Tolerated occasion rules receipt o := by
  rcases hresult : classify {} occasion rules receipt counters with ⟨result, moved⟩
  rw [hresult] at h
  subst h
  obtain ⟨found, hresolve, hclassified⟩ := classified_of_classify hresult
  have hnotes := notes_of_classified hclassified
  refine ⟨fun r i htried hnot ↦ ?_, fun r i c htried hwf hreaches hundecidable ↦ ?_,
    fun r i htried happlies ↦ ?_, fun r i s htried happlies hasks hs ↦ ?_⟩
  · obtain ⟨log, hlog, hmem⟩ := notes_of_isTried hresolve htried
    cases hlog with
    | malformed reason _ hreason => exact ⟨reason, hreason, hnotes _ (hmem _ List.mem_cons_self)⟩
    | combined v hwf => exact absurd hwf hnot
  · obtain ⟨message, hmessage⟩ := Condition.evaluate_of_undecidableOn (some r.id) hundecidable
    have hmem := notes_of_reaches hresolve htried hwf hreaches hmessage
    exact ⟨message, hmessage, hnotes _ (hmem _ List.mem_cons_self)⟩
  · obtain ⟨d, numberedD, happly, hnumbered, rfl⟩ :=
      exists_matched hresolve hclassified htried happlies
    obtain ⟨notes, hvalid⟩ := Directive.exists_apply_filter happly
    refine ⟨numberedD, notes, rfl, fun a ha n hn ↦ ?_, ?_⟩
    · refine List.mem_append_right _ ?_
      rw [diagnostics_of_numbered hnumbered]
      exact Directive.mem_diagnostics_of_note? happly ha hn
    · obtain ⟨number, rfl⟩ := exists_of_numbered hnumbered
      rw [hvalid, ← (Directive.apply_unnumbered happly).1]
  · obtain ⟨d, numberedD, happly, hnumbered, rfl⟩ :=
      exists_matched hresolve hclassified htried happlies
    refine List.mem_append_right _ ?_
    rw [diagnostics_of_numbered hnumbered]
    exact Directive.dateNote_mem_diagnostics happly hasks hs

/-- By any rules and for any receipt, a classification is aborted in the three cases and in no
other, and otherwise whatever could not be decided is noted and has no effect. -/
theorem classify_aborts_or_tolerates (occasion : Directive.Occasion) (rules : List Rule)
    (receipt : Receipt) (counters : Option Counters) :
    (∀ e, (classify {} occasion rules receipt counters).1 = .error e ↔
      Aborts occasion rules receipt counters e) ∧
    ∀ o, (classify {} occasion rules receipt counters).1 = .ok o →
      Tolerated occasion rules receipt o :=
  ⟨fun _ ↦ classify_eq_error_iff, fun _ ↦ tolerated_of_classify⟩

/-- A rule on the name of the seller, made at a fixed moment. -/
def sellerRule (id : String) (conditions : List (Operator × String)) (actions : List Action) :
    Rule where
  id := id
  name := id
  conditions := conditions.map fun (operator, value) ↦ ⟨.sellerName, operator, value, .and⟩
  actions := actions
  createdAt := .midnight ⟨2024, 5, 1, by decide⟩
  updatedAt := .midnight ⟨2024, 5, 1, by decide⟩

/-- A rule without conditions, one with a malformed pattern, and one that applies, has an action of
an unknown category and asks for a number. -/
def tolerableRules : List Rule := [
  sellerRule "EMPTY" [] [], sellerRule "OPEN" [(.regex, "(")] [],
  sellerRule "CAFE" [(.contains, "Cafe")] [⟨.setCategory, "lunch"⟩, ⟨.generateArchiveNumber, ""⟩]]

def undatedReceipt : Receipt :=
  ⟨some "A", [("SELLER_NAME", .text "Cafe Central"), ("DATE", .text "soon")]⟩

/-- All that is wrong with the rules and with the date is noted, and the third rule matches. -/
theorem tolerated_tolerableRules :
    let occasion : Directive.Occasion := ⟨none, ⟨2024, 7, 15, by decide⟩⟩
    ∃ o, (classify {} occasion tolerableRules undatedReceipt none).1 = .ok o ∧
      o.ruleId = some "CAFE" ∧ o.notes.map Diagnostic.kind =
        [.malformedRule, .malformedPredicate, .malformedAction, .malformedAction] ∧
      Tolerated occasion tolerableRules undatedReceipt o := by
  intro occasion
  have hresult : (classify {} occasion tolerableRules undatedReceipt none).1.map
      (fun o ↦ (o.ruleId, o.notes.map Diagnostic.kind)) = .ok (some "CAFE",
        [.malformedRule, .malformedPredicate, .malformedAction, .malformedAction]) := by
    decide +kernel
  obtain ⟨o, ho, hseen⟩ := Except.map_eq_ok_iff.mp hresult
  obtain ⟨hruleId, hkinds⟩ := Prod.mk.inj hseen
  exact ⟨o, ho, hruleId, hkinds,
    (classify_aborts_or_tolerates occasion tolerableRules undatedReceipt none).2 o ho⟩

/-- A repetition that is too large aborts the classification, although the rule behind it matches.
-/
theorem largeRepetition_aborts :
    let occasion : Directive.Occasion := ⟨none, ⟨2024, 7, 15, by decide⟩⟩
    let bad : Rule := sellerRule "BAD" [(.regex, "a{99999999999}")] [⟨.addTag, "x"⟩]
    let good : Rule := sellerRule "GOOD" [(.contains, "Cafe")] [⟨.addTag, "y"⟩]
    (classify {} occasion [good] undatedReceipt none).1.map Outcome.matched = .ok true ∧
      (classify {} occasion [bad, good] undatedReceipt none).1 =
        .error (.pattern .tooManyRepetitions) := by
  decide +kernel

end ReceiptRules.Engine
