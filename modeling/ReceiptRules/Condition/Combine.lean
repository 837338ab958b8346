import ReceiptRules.Condition.Evaluate

/-!
# Combining conditions

The conditions of a rule are joined from left to right, each to the outcome of all before it; `and`
does not bind tighter than `or`. A condition that cannot change the outcome is not evaluated: where
the outcome decides a step, joining gives it back whatever the condition says.
-/

namespace ReceiptRules

namespace Joiner

/-- Whether the outcome so far already decides the next step. -/
def decides (outcome : Bool) : Joiner → Bool
  | .and => !outcome
  | .or => outcome

/-- The outcome of a step that evaluates its condition. -/
def join (outcome next : Bool) : Joiner → Bool
  | .and => outcome && next
  | .or => outcome || next

theorem join_of_decides {outcome : Bool} {joiner : Joiner} (next : Bool)
    (h : joiner.decides outcome) : joiner.join outcome next = outcome := by
  cases joiner <;> cases outcome <;> simp_all [decides, join]

end Joiner

namespace Condition

/-- Goes on from an outcome over the remaining conditions. The joiner is that of the condition
before them. -/
def combineFrom (settings : Settings) (ruleId : Option String) (receipt : Receipt)
    (outcome : Bool) (joiner : Joiner) : List Condition → Except Failure Verdict
  | [] => .ok ⟨outcome, []⟩
  | c :: rest =>
    if joiner.decides outcome then
      combineFrom settings ruleId receipt outcome c.joiner rest
    else do
      let first ← evaluate settings ruleId receipt c
      let others ← combineFrom settings ruleId receipt first.holds c.joiner rest
      return ⟨others.holds, first.notes ++ others.notes⟩

/-- The verdict on all conditions together; no conditions at all do not hold. -/
def combine (settings : Settings) (ruleId : Option String) (receipt : Receipt) :
    List Condition → Except Failure Verdict
  | [] => .ok ⟨false, []⟩
  | c :: rest => do
    let first ← evaluate settings ruleId receipt c
    let others ← combineFrom settings ruleId receipt first.holds c.joiner rest
    return ⟨others.holds, first.notes ++ others.notes⟩

end Condition

end ReceiptRules
