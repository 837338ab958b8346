import ReceiptRules.Condition.Combine
import ReceiptRules.Rule.Order

/-!
# Resolving rules

The first enabled rule in evaluation order whose conditions hold wins. Malformed rules are noted and
passed over, so that one bad rule never blocks the others.
-/

namespace ReceiptRules.Rule

def unsupported (c : Condition) : String :=
  s!"operator {c.operator.word} is not supported on {Vocabulary.word c.field.kind} field " ++
    c.field.word

/-- The first condition, counted from a number on, whose operator its field does not support. -/
def unsupportedFrom? : Nat → List Condition → Option String
  | _, [] => none
  | n, c :: rest =>
    if c.operator.supportedOn c.field then unsupportedFrom? (n + 1) rest
    else some s!"condition {n}: {unsupported c}"

/-- Why a rule can never be applied. -/
def malformedReason? (r : Rule) : Option String :=
  if r.conditions.isEmpty then some "rule has no conditions and can never match"
  else unsupportedFrom? 1 r.conditions

structure Resolution where
  winner : Option Rule
  notes : List Diagnostic := []

def skipNote (r : Rule) (reason : String) : Diagnostic :=
  ⟨some r.id, .malformedRule, s!"skipped '{r.name}': {reason}"⟩

/-- The first rule of the list that matches. -/
def firstMatch (settings : Settings) (receipt : Receipt) :
    List Rule → Except Failure Resolution
  | [] => .ok ⟨none, []⟩
  | r :: rest =>
    match r.malformedReason? with
    | some reason =>
      (firstMatch settings receipt rest).map fun found ↦
        ⟨found.winner, skipNote r reason :: found.notes⟩
    | none => do
      let verdict ← Condition.combine settings (some r.id) receipt r.conditions
      if verdict.holds then return ⟨some r, verdict.notes⟩
      else
        let found ← firstMatch settings receipt rest
        return ⟨found.winner, verdict.notes ++ found.notes⟩

/-- The rule that applies to a receipt. -/
def resolve (settings : Settings) (receipt : Receipt) (rules : List Rule) :
    Except Failure Resolution :=
  firstMatch settings receipt (ordered (rules.filter (fun r ↦ r.enabled)))

end ReceiptRules.Rule
