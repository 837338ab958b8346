import Mathlib.Algebra.Ring.Nat
import ReceiptRules.Proofs.Batch.Notes
import ReceiptRules.Proofs.Batch.Order
import ReceiptRules.Proofs.Rule.Validation

/-!
# The accounts of a batch

A report has one outcome for each receipt of the batch, in their order, and its sums agree with these
outcomes and with each other. A batch that is split in two, the second part going on with the counters
of the first, has the same outcomes and numbers, and the sums of the parts. A batch has a report unless
the classification of one of its receipts fails.
-/

namespace ReceiptRules.Batch

open ArchiveNumber

variable {settings : Settings} {occasion : Directive.Occasion} {rules : List Rule}
  {receipts before after : List Receipt} {outcomes : List Outcome} {counters moved : Option Counters}
  {id : String}

/-! ## The outcome of a receipt -/

/-- The outcome names the receipt, and the rule that wins for it if there is one. -/
structure AnswersTo (settings : Settings) (rules : List Rule) (receipt : Receipt) (o : Outcome) :
    Prop where
  receiptId : o.receiptId = receipt.id
  winner : ∃ found, Rule.resolve settings receipt rules = .ok found ∧
    o.ruleId = found.winner.map fun r ↦ r.id
  matched : o.matched = o.ruleId.isSome

theorem answersTo_of_classify {receipt : Receipt} {o : Outcome}
    (h : Engine.classify settings occasion rules receipt counters = (.ok o, moved)) :
    AnswersTo settings rules receipt o := by
  obtain ⟨found, hresolve, hclassified⟩ := Engine.classified_of_classify h
  cases hclassified with
  | matched r d numberedD _ hwinner => exact ⟨rfl, ⟨found, hresolve, by rw [hwinner]; rfl⟩, rfl⟩
  | bare hwinner => exact ⟨rfl, ⟨found, hresolve, by rw [hwinner]; rfl⟩, rfl⟩
  | default d numberedD _ hwinner => exact ⟨rfl, ⟨found, hresolve, by rw [hwinner]; rfl⟩, rfl⟩

/-- A rule with the identifier wins for one of the receipts. -/
def IsWinner (settings : Settings) (rules : List Rule) (receipts : List Receipt) (id : String) :
    Prop :=
  ∃ receipt ∈ receipts, ∃ found r, Rule.resolve settings receipt rules = .ok found ∧
    found.winner = some r ∧ r.id = id

theorem isWinner_iff (h : List.Forall₂ (AnswersTo settings rules) receipts outcomes) :
    IsWinner settings rules receipts id ↔ id ∈ outcomes.filterMap Outcome.ruleId := by
  induction h with
  | nil => simp [IsWinner]
  | @cons receipt o receipts outcomes hfirst _ ih =>
    obtain ⟨found, hresolve, hwinner⟩ := hfirst.winner
    have hhere : (∃ found r, Rule.resolve settings receipt rules = .ok found ∧
        found.winner = some r ∧ r.id = id) ↔ o.ruleId = some id := by
      simp [hresolve, hwinner]
    have hcons : IsWinner settings rules (receipt :: receipts) id ↔
        o.ruleId = some id ∨ IsWinner settings rules receipts id := by
      rw [← hhere]
      simp only [IsWinner, List.mem_cons, exists_eq_or_imp]
    rw [hcons, ih, List.mem_filterMap, List.mem_filterMap]
    simp only [List.mem_cons, exists_eq_or_imp]

/-! ## How often rules win -/

theorem nodup_foldl_countWin {counts : List (String × Nat)} (h : (counts.map Prod.fst).Nodup)
    (ids : List String) : ((ids.foldl countWin counts).map Prod.fst).Nodup := by
  induction ids generalizing counts with
  | nil => exact h
  | cons id rest ih => exact ih (Value.nodup_keys_insert h id _)

theorem sum_countWin (counts : List (String × Nat)) (id : String) :
    ((countWin counts id).map Prod.snd).sum = (counts.map Prod.snd).sum + 1 := by
  unfold countWin
  induction counts with
  | nil => rfl
  | cons entry rest ih =>
    obtain ⟨k, n⟩ := entry
    rw [List.lookup_cons_ite, Value.insert]
    by_cases h : id = k
    · rw [if_pos h, if_pos h.symm]
      simp only [List.map_cons, List.sum_cons, Option.getD_some]
      omega
    · rw [if_neg h, if_neg (Ne.symm h)]
      simp only [List.map_cons, List.sum_cons, ih]
      omega

theorem sum_foldl_countWin (ids : List String) (counts : List (String × Nat)) :
    ((ids.foldl countWin counts).map Prod.snd).sum = (counts.map Prod.snd).sum + ids.length := by
  induction ids generalizing counts with
  | nil => rfl
  | cons id rest ih =>
    rw [List.foldl_cons, ih, sum_countWin, List.length_cons]
    omega

theorem nodup_wins (outcomes : List Outcome) : ((wins outcomes).map Prod.fst).Nodup := by
  rw [wins]
  exact nodup_foldl_countWin (by simp) _

/-- The count of a rule is there exactly if the rule has won. -/
theorem mem_wins_iff {n : Nat} : (id, n) ∈ wins outcomes ↔
    id ∈ outcomes.filterMap Outcome.ruleId ∧ n = outcomes.countP fun o ↦ o.ruleId == some id := by
  rw [Value.mem_iff_lookup (nodup_wins outcomes), lookup_wins, ← List.count_filterMap,
    ← List.count_pos_iff]
  split
  · next hzero => simp [hzero]
  · next hne => simp [Nat.pos_of_ne_zero hne, eq_comm]

/-! ## Reports -/

/-- What a report says about the batch as a whole agrees with the outcomes of the receipts. -/
structure Accounts (settings : Settings) (rules : List Rule) (receipts : List Receipt) (r : Report) :
    Prop where
  outcomes : List.Forall₂ (AnswersTo settings rules) receipts r.outcomes
  size : r.matched + r.unmatched = receipts.length
  distinct : (r.byRule.map Prod.fst).Nodup
  counted : ∀ id n, (id, n) ∈ r.byRule ↔
    IsWinner settings rules receipts id ∧ n = r.outcomes.countP fun o ↦ o.ruleId == some id
  positive : ∀ id n, (id, n) ∈ r.byRule → 0 < n
  known : ∀ id n, (id, n) ∈ r.byRule → ∃ rule ∈ rules, rule.id = id
  matched : (r.byRule.map Prod.snd).sum = r.matched
  noteCount : r.noteCount = (r.outcomes.map fun o ↦ o.notes.length).sum

theorem IsWinner.exists_mem (h : IsWinner settings rules receipts id) :
    ∃ rule ∈ rules, rule.id = id := by
  obtain ⟨receipt, -, found, r, hresolve, hwinner, hid⟩ := h
  exact ⟨r, Rule.mem_of_resolve hresolve hwinner, hid⟩

theorem accounts_report (h : List.Forall₂ (AnswersTo settings rules) receipts outcomes)
    (batchId : String) (now : Timestamp) :
    Accounts settings rules receipts (report batchId now rules outcomes) where
  outcomes := h
  size := by
    rw [h.length_eq, List.length_eq_countP_add_countP Outcome.matched]
    simp [report, List.countP_eq_length_filter]
  distinct := nodup_wins outcomes
  counted id n := by
    rw [isWinner_iff h]
    exact mem_wins_iff
  positive id n hmem := by
    obtain ⟨hwon, hn⟩ := mem_wins_iff.mp hmem
    rw [hn, ← List.count_filterMap]
    exact List.count_pos_iff.mpr hwon
  known id n hmem := ((isWinner_iff h).mpr (mem_wins_iff.mp hmem).1).exists_mem
  matched := by
    have hmatched : outcomes.countP Outcome.matched = outcomes.countP fun o ↦ o.ruleId.isSome := by
      induction h with
      | nil => rfl
      | cons hfirst _ ih => rw [List.countP_cons, List.countP_cons, ih, hfirst.matched]
    rw [report, wins, sum_foldl_countWin, List.length_filterMap_eq_countP, ← hmatched,
      List.countP_eq_length_filter]
    exact Nat.zero_add _
  noteCount := by rw [report, List.length_flatMap]

/-! ## Splitting a batch -/

theorem classifyAll_append_eq_ok_iff :
    classifyAll settings occasion rules (before ++ after) counters = (.ok outcomes, moved) ↔
      ∃ first middle second,
        classifyAll settings occasion rules before counters = (.ok first, middle) ∧
        classifyAll settings occasion rules after middle = (.ok second, moved) ∧
        outcomes = first ++ second := by
  induction before generalizing outcomes counters with
  | nil => simp [classifyAll, eq_comm]
  | cons receipt rest ih =>
    simp only [List.cons_append, classifyAll_cons_eq_ok_iff, ih]
    constructor
    · rintro ⟨o, _, next, hfirst, ⟨first, middle, second, hrest, hafter, rfl⟩, rfl⟩
      exact ⟨o :: first, middle, second, ⟨o, first, next, hfirst, hrest, rfl⟩, hafter, rfl⟩
    · rintro ⟨_, middle, second, ⟨o, first, next, hfirst, hrest, rfl⟩, hafter, rfl⟩
      exact ⟨o, first ++ second, next, hfirst, ⟨first, middle, second, hrest, hafter, rfl⟩, rfl⟩

/-- The outcomes of two reports one behind the other, and the sums of their sums. -/
structure Joins (first second r : Report) : Prop where
  outcomes : r.outcomes = first.outcomes ++ second.outcomes
  matched : r.matched = first.matched + second.matched
  unmatched : r.unmatched = first.unmatched + second.unmatched
  byRule : ∀ id, (r.byRule.lookup id).getD 0 =
    (first.byRule.lookup id).getD 0 + (second.byRule.lookup id).getD 0
  noteCount : r.noteCount = first.noteCount + second.noteCount

theorem getD_lookup_wins (outcomes : List Outcome) (id : String) :
    ((wins outcomes).lookup id).getD 0 = (outcomes.filterMap Outcome.ruleId).count id := by
  rw [lookup_wins]
  split
  · next hzero => rw [hzero]; rfl
  · rfl

theorem joins_report (rules : List Rule) (batchId batchId' batchId'' : String)
    (now now' now'' : Timestamp) (first second : List Outcome) :
    Joins (report batchId now rules first) (report batchId' now' rules second)
      (report batchId'' now'' rules (first ++ second)) where
  outcomes := rfl
  matched := by simp [report]
  unmatched := by simp [report]
  byRule id := by simp [report, getD_lookup_wins]
  noteCount := by simp [report]

/-! ## When there is no report -/

/-- Classifying fails at a receipt, those before it being classified. -/
def Fails (settings : Settings) (occasion : Directive.Occasion) (rules : List Rule)
    (receipts : List Receipt) (counters : Option Counters) (e : Failure)
    (moved : Option Counters) : Prop :=
  ∃ before receipt after outcomes middle, receipts = before ++ receipt :: after ∧
    classifyAll settings occasion rules before counters = (.ok outcomes, middle) ∧
    Engine.classify settings occasion rules receipt middle = (.error e, moved)

theorem classifyAll_cons_eq_error_iff {receipt : Receipt} {e : Failure} :
    classifyAll settings occasion rules (receipt :: receipts) counters = (.error e, moved) ↔
      Engine.classify settings occasion rules receipt counters = (.error e, moved) ∨
        ∃ o next, Engine.classify settings occasion rules receipt counters = (.ok o, next) ∧
          classifyAll settings occasion rules receipts next = (.error e, moved) := by
  rw [classifyAll]
  rcases Engine.classify settings occasion rules receipt counters with ⟨e' | o, next⟩
  · simp
  · rcases hrest : classifyAll settings occasion rules receipts next with ⟨e' | rest, moved'⟩ <;>
      simp [hrest, Except.map]

theorem classifyAll_eq_error_iff {e : Failure} :
    classifyAll settings occasion rules receipts counters = (.error e, moved) ↔
      Fails settings occasion rules receipts counters e moved := by
  induction receipts generalizing counters with
  | nil => simp [classifyAll, Fails]
  | cons receipt rest ih =>
    rw [classifyAll_cons_eq_error_iff]
    constructor
    · rintro (hhere | ⟨o, next, hfirst, hrest⟩)
      · exact ⟨[], receipt, rest, [], counters, rfl, rfl, hhere⟩
      · obtain ⟨before, failing, after, outcomes, middle, rfl, hbefore, hfails⟩ := ih.mp hrest
        have hbefore' := classifyAll_cons_eq_ok_iff.mpr ⟨o, outcomes, next, hfirst, hbefore, rfl⟩
        exact ⟨receipt :: before, failing, after, _, middle, rfl, hbefore', hfails⟩
    · rintro ⟨_ | ⟨first, before⟩, failing, after, outcomes, middle, hsplit, hbefore, hfails⟩
      · cases hbefore
        obtain ⟨rfl, rfl⟩ := List.cons.inj hsplit
        exact .inl hfails
      · obtain ⟨rfl, rfl⟩ := List.cons.inj hsplit
        obtain ⟨o, others, next, hfirst, hothers, -⟩ := classifyAll_cons_eq_ok_iff.mp hbefore
        exact .inr ⟨o, next, hfirst,
          ih.mpr ⟨before, failing, after, others, middle, rfl, hothers, hfails⟩⟩

theorem run_eq_error_iff {now : Timestamp} {fresh : Nat} {e : Failure} :
    run settings occasion now fresh rules receipts counters = (.error e, moved) ↔
      Fails settings occasion rules receipts counters e moved := by
  rw [← classifyAll_eq_error_iff, run]
  rcases classifyAll settings occasion rules receipts counters with ⟨e' | outcomes, moved'⟩ <;>
    simp [Except.map]

/-! ## Reports of batches -/

/-- A batch over the snapshot of the enabled rules has a report unless classifying a receipt fails. The
report accounts for every receipt, and joins the reports on any two parts of the batch, the second part
going on with the counters of the first. -/
theorem run_accounts (settings : Settings) (occasion : Directive.Occasion) (now : Timestamp)
    (fresh : Nat) (rules : List Rule) (receipts : List Receipt) (counters : Option Counters) :
    (∀ e moved, run settings occasion now fresh (snapshot rules) receipts counters =
        (.error e, moved) ↔ Fails settings occasion (snapshot rules) receipts counters e moved) ∧
    ∀ r moved, run settings occasion now fresh (snapshot rules) receipts counters = (.ok r, moved) →
      Accounts settings (snapshot rules) receipts r ∧
      ∀ before after now' fresh' now'' fresh'', receipts = before ++ after →
        ∃ first middle second,
          run settings occasion now' fresh' (snapshot rules) before counters = (.ok first, middle) ∧
          run settings occasion now'' fresh'' (snapshot rules) after middle = (.ok second, moved) ∧
          Joins first second r := by
  refine ⟨fun e moved ↦ run_eq_error_iff, fun r moved hrun ↦ ?_⟩
  obtain ⟨outcomes, hall, rfl⟩ := run_eq_ok_iff.mp hrun
  refine ⟨accounts_report (forall₂_of_classifyAll answersTo_of_classify hall) _ _, ?_⟩
  rintro before after now' fresh' now'' fresh'' rfl
  obtain ⟨first, middle, second, hfirst, hsecond, rfl⟩ := classifyAll_append_eq_ok_iff.mp hall
  exact ⟨_, middle, _, run_eq_ok_iff.mpr ⟨first, hfirst, rfl⟩,
    run_eq_ok_iff.mpr ⟨second, hsecond, rfl⟩, joins_report ..⟩

def lunchBatch : List Receipt := [lunchReceipt, ⟨some "B", []⟩, ⟨some "C", []⟩]

/-- One receipt is won by the rule on lunch, the others are numbered as unmatched ones, the last of them
in a second part of the batch. -/
theorem run_accounts_lunch :
    ∃ r moved first middle second,
      run numberUnmatched july (.midnight july.day) 1 (snapshot [lunchRule]) lunchBatch
        (some .empty) = (.ok r, moved) ∧
      r.outcomes.map Outcome.number =
        [none, some "2024-07-OTH-0001", some "2024-07-OTH-0002"] ∧
      r.byRule = [("lunch", 1)] ∧
      Accounts numberUnmatched (snapshot [lunchRule]) lunchBatch r ∧
      run numberUnmatched july (.midnight july.day) 2 (snapshot [lunchRule]) (lunchBatch.take 2)
        (some .empty) = (.ok first, middle) ∧
      run numberUnmatched july (.midnight july.day) 3 (snapshot [lunchRule]) (lunchBatch.drop 2)
        middle = (.ok second, moved) ∧
      Joins first second r := by
  have hall : classifyAll numberUnmatched july (snapshot [lunchRule]) lunchBatch (some .empty) =
      (.ok _, _) :=
    classifyAll_some_eq_ok_iff.mpr
      ⟨_, .cons rfl (.cons rfl (.cons rfl .nil)), by unfold Counters.Writable; decide +kernel, rfl, rfl⟩
  have hrun : run numberUnmatched july (.midnight july.day) 1 (snapshot [lunchRule]) lunchBatch
      (some .empty) = (.ok _, _) := run_eq_ok_iff.mpr ⟨_, hall, rfl⟩
  obtain ⟨haccounts, hsplit⟩ := (run_accounts ..).2 _ _ hrun
  obtain ⟨first, middle, second, hfirst, hsecond, hjoins⟩ :=
    hsplit (lunchBatch.take 2) (lunchBatch.drop 2) (.midnight july.day) 2 (.midnight july.day) 3 rfl
  exact ⟨_, _, first, middle, second, hrun, by decide +kernel, by decide +kernel, haccounts, hfirst,
    hsecond, hjoins⟩

end ReceiptRules.Batch
