import ReceiptRules.ArchiveNumber
import ReceiptRules.Rule.Resolve

/-!
# Checking rules

Rules are checked when they are written: each condition and each action on its own, and the rule as
a whole. The problems come as texts in a fixed order.
-/

namespace ReceiptRules

open Text

namespace Condition

/-- Problems of a comparison text that should be a value of some kind. -/
def comparisonProblems (settings : Settings) (c : Condition) : Except Failure (List String) :=
  let needs (what : String) : List String :=
    [s!"{c.operator.word} on {c.field.word} needs a {what} value, got {Quoted.quote c.value}"]
  match c.field.kind with
  | .text => .ok []
  | .number => .ok (if (Decimal.amountOfText? c.value).isNone then needs "numeric" else [])
  | .date =>
    (settings.dateOfText? c.value).map fun d ↦ if d.isNone then needs "date" else []

def patternProblems (c : Condition) : Except Failure (List String) :=
  match Pattern.ofText c.value with
  | .ok _ => .ok []
  | .error (.malformed cause position) =>
    let problem := (Pattern.Problem.malformed cause position).message c.value
    .ok [s!"invalid regex for {c.field.word}: {problem}"]
  | .error problem => .error (.pattern problem)

/-- What is wrong with a condition. -/
def problems (settings : Settings) (c : Condition) : Except Failure (List String) :=
  if !c.operator.supportedOn c.field then .ok [Rule.unsupported c]
  else match c.operator with
    | .regex => patternProblems c
    | .inList =>
      (listItems settings c).map fun items ↦
        if items.all String.isEmpty then [s!"IN_LIST on {c.field.word} has no values"] else []
    | _ => comparisonProblems settings c

end Condition

namespace Action

/-- Tags of an action's value: the trimmed pieces between commas that are not empty. -/
def tagsOf (value : String) : List String :=
  ((Search.split "," value).map Blank.trim).filter fun t ↦ !t.isEmpty

def needsValue : ActionKind → Bool
  | .setCategory | .setSubCategory | .setExpenseType | .setDepartment | .setProject => true
  | _ => false

/-- What is wrong with an action. -/
def problem? (a : Action) : Option String :=
  let value := Blank.trim a.value
  let shown := Quoted.quote a.value
  if a.kind = .setCategory ∧ (Category.ofWord? value).isNone then
    some s!"unknown category {shown}"
  else if a.kind = .setSubCategory ∧ (SubCategory.ofWord? value).isNone then
    some s!"unknown sub-category {shown}"
  else if needsValue a.kind ∧ value.isEmpty then some s!"{a.kind.word} needs a value"
  else if a.kind = .addTag ∧ (tagsOf a.value).isEmpty then some "ADD_TAG needs at least one tag"
  else if a.kind = .generateArchiveNumber ∧ !value.isEmpty ∧
      (ArchiveNumber.codeOf? value).isNone then
    some s!"invalid archive category code {shown}"
  else none

end Action

namespace Rule

/-- Problems of the conditions, each with the number of its condition. -/
def conditionProblems (settings : Settings) : Nat → List Condition → Except Failure (List String)
  | _, [] => .ok []
  | n, c :: rest => do
    let first ← c.problems settings
    let others ← conditionProblems settings (n + 1) rest
    return first.map (fun p ↦ s!"condition {n}: {p}") ++ others

def actionProblems : Nat → List Action → List String
  | _, [] => []
  | n, a :: rest =>
    (a.problem?.map fun p ↦ s!"action {n}: {p}").toList ++ actionProblems (n + 1) rest

/-- What is wrong with a rule. -/
def problems (settings : Settings) (r : Rule) : Except Failure (List String) :=
  (conditionProblems settings 1 r.conditions).map fun ofConditions ↦
    (if (Blank.trim r.name).isEmpty then ["rule name is empty"] else []) ++
      (if r.conditions.isEmpty then ["rule has no conditions"] else []) ++ ofConditions ++
      (if r.actions.isEmpty then ["rule has no actions"] else []) ++ actionProblems 1 r.actions

/-- Refuses a rule that has problems. -/
def check (settings : Settings) (r : Rule) : Except Failure Unit := do
  let found ← r.problems settings
  if found.isEmpty then return () else .error (.invalidRule r.name found)

end Rule

end ReceiptRules
