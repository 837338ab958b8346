import ReceiptRules.Document.Directives
import ReceiptRules.Engine
import ReceiptRules.Text.Quoted

/-!
# Batches

A batch classifies many receipts against one snapshot of the enabled rules and sums up what became
of them. The first receipt whose classification fails stops the batch. Receipts are classified in their
order; a pool of threads that shares the work, and the order in which it would take numbers, is left
out.
-/

namespace ReceiptRules

open ArchiveNumber

structure Report where
  batchId : String
  generatedAt : Timestamp
  ruleCount : Nat
  outcomes : List Outcome
  matched : Nat
  unmatched : Nat
  /-- How often each rule won, in the order of the first win. -/
  byRule : List (String × Nat)
  noteCount : Nat
deriving DecidableEq

namespace Batch

/-- The rules that a batch looks at. -/
def snapshot (rules : List Rule) : List Rule := rules.filter fun r ↦ r.enabled

/-- Classifies receipts one after the other, the counters going from each to the next. -/
def classifyAll (settings : Settings) (occasion : Directive.Occasion) (rules : List Rule) :
    List Receipt → Option Counters → Except Failure (List Outcome) × Option Counters
  | [], counters => (.ok [], counters)
  | receipt :: rest, counters =>
    match Engine.classify settings occasion rules receipt counters with
    | (.error e, moved) => (.error e, moved)
    | (.ok outcome, moved) =>
      let (others, moved) := classifyAll settings occasion rules rest moved
      (others.map (outcome :: ·), moved)

/-- Adds one to the count of a rule. -/
def countWin (counts : List (String × Nat)) (id : String) : List (String × Nat) :=
  Value.insert id ((counts.lookup id).getD 0 + 1) counts

def wins (outcomes : List Outcome) : List (String × Nat) :=
  (outcomes.filterMap Outcome.ruleId).foldl countWin []

/-- The report on the outcomes of a batch. -/
def report (batchId : String) (now : Timestamp) (rules : List Rule) (outcomes : List Outcome) :
    Report where
  batchId := batchId
  generatedAt := now
  ruleCount := rules.length
  outcomes := outcomes
  matched := (outcomes.filter Outcome.matched).length
  unmatched := (outcomes.filter fun o ↦ !o.matched).length
  byRule := wins outcomes
  noteCount := (outcomes.flatMap Outcome.notes).length

/-- Runs a batch over a snapshot; the identifier is drawn when the batch has succeeded. -/
def run (settings : Settings) (occasion : Directive.Occasion) (now : Timestamp) (fresh : Nat)
    (rules : List Rule) (receipts : List Receipt) (counters : Option Counters) :
    Except Failure Report × Option Counters :=
  let (outcomes, moved) := classifyAll settings occasion rules receipts counters
  (outcomes.map (report (Identity.batchId fresh) now rules), moved)

end Batch

namespace Outcome

def toDocument (o : Outcome) : Value := .object [
  ("receipt_id", Value.ofOption .text o.receiptId), ("matched", .bool o.matched),
  ("rule_id", Value.ofOption .text o.ruleId), ("rule_name", Value.ofOption .text o.ruleName),
  ("directive", Value.ofOption Directive.toDocument o.directive),
  ("diagnostics", .list (o.notes.map Diagnostic.toDocument))]

end Outcome

namespace Report

def totals (r : Report) : Value := .object [
  ("matched", .int r.matched), ("unmatched", .int r.unmatched)]

def ruleCounts (r : Report) : Value := .object (r.byRule.map fun (id, n) ↦ (id, .int n))

def toDocument (r : Report) : Value := .object [
  ("run_id", .text r.batchId), ("generated_at", .text r.generatedAt.stored),
  ("rule_count", .int r.ruleCount), ("results", .list (r.outcomes.map Outcome.toDocument)),
  ("totals", r.totals), ("by_rule", r.ruleCounts), ("diagnostic_count", .int r.noteCount)]

end Report

end ReceiptRules
