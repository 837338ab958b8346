import ReceiptRules.Directive.Apply
import ReceiptRules.ArchiveNumber

/-!
# Classifying receipts

A receipt is classified by resolving the rules, applying the actions of the winner, and numbering
the directive last. A receipt that no rule matches gets the default outcome of the settings. An
engine without counters leaves the request for a number to its caller.
-/

namespace ReceiptRules

open ArchiveNumber

structure Outcome where
  receiptId : Option String
  matched : Bool
  ruleId : Option String
  ruleName : Option String
  directive : Option Directive
  notes : List Diagnostic
deriving DecidableEq

namespace Engine

/-- Numbers a directive if there are counters. -/
def numbered (d : Directive) : Option Counters → Except Failure Directive × Option Counters
  | none => (.ok d, none)
  | some counters =>
    let (result, moved) := d.assignNumber counters
    (result, some moved)

/-- The outcome for a receipt whose directive is settled up to its number. -/
def finish (counters : Option Counters) (build : Directive → Outcome) (d : Directive) :
    Except Failure Outcome × Option Counters :=
  let (result, moved) := numbered d counters
  (result.map build, moved)

/-- Actions for receipts that no rule matches. -/
def defaultActions (settings : Settings) : List Action :=
  (settings.unmatchedCategory.map fun c ↦ (⟨.setCategory, c.word⟩ : Action)).toList ++
    if settings.unmatchedNumbered then [⟨.generateArchiveNumber, ""⟩] else []

def matchedOutcome (receipt : Receipt) (r : Rule) (notes : List Diagnostic) (d : Directive) :
    Outcome :=
  ⟨receipt.id, true, some r.id, some r.name, some d, notes ++ d.diagnostics⟩

def unmatchedOutcome (receipt : Receipt) (notes : List Diagnostic) (d : Option Directive) :
    Outcome :=
  ⟨receipt.id, false, none, none, d, notes⟩

/-- Classifies a receipt by a list of rules. -/
def classify (settings : Settings) (occasion : Directive.Occasion) (rules : List Rule)
    (receipt : Receipt) (counters : Option Counters) :
    Except Failure Outcome × Option Counters :=
  match Rule.resolve settings receipt rules with
  | .error e => (.error e, counters)
  | .ok ⟨some r, notes⟩ =>
    match Directive.apply settings (some r.id) (some receipt) none occasion r.actions with
    | .error e => (.error e, counters)
    | .ok d => finish counters (matchedOutcome receipt r notes) d
  | .ok ⟨none, notes⟩ =>
    match defaultActions settings with
    | [] => (.ok (unmatchedOutcome receipt notes none), counters)
    | actions =>
      match Directive.apply settings none (some receipt) none occasion actions with
      | .error e => (.error e, counters)
      | .ok d => finish counters (fun d ↦ unmatchedOutcome receipt notes (some d)) d

end Engine

end ReceiptRules
