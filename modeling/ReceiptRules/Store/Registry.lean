import ReceiptRules.Store.Desk

/-!
# System rules

A registry holds templates of the rules that belong to the system, each under the identifier of its
rule. A template stands for a factory that takes no arguments and makes the same rule each time, the
moment apart. Seeding a store adds the rules that it does not have yet, in the order of registration.
-/

namespace ReceiptRules

/-- What a system rule is made from: a draft that is the same each time, stamped with the moment at
which the rule is made. -/
structure Template where
  name : String
  draft : RuleDraft

namespace Template

def id (t : Template) : String := t.draft.id

/-- The rule of a template, made at a moment. -/
def rule (t : Template) (now : Timestamp) : Rule :=
  { t.draft.stamped now with isSystemRule := true }

end Template

structure Registry where
  templates : List Template

namespace Registry

def empty : Registry := ⟨[]⟩

def ids (g : Registry) : List String := g.templates.map Template.id

def register (g : Registry) (t : Template) : Except Failure Registry :=
  if t.id.isEmpty then .error (.systemRuleWithoutId t.name)
  else if g.ids.contains t.id then .error (.duplicateSystemRule t.id)
  else .ok ⟨g.templates ++ [t]⟩

def create (g : Registry) (now : Timestamp) (id : String) : Except Failure Rule :=
  match g.templates.find? fun t ↦ t.id == id with
  | some t => .ok (t.rule now)
  | none => .error (.unknownSystemRule id)

def createAll (g : Registry) (now : Timestamp) : List Rule := g.templates.map fun t ↦ t.rule now

/-- Adds the rules of templates whose identifiers the store does not have. -/
def seedFrom (now : Timestamp) : List Template → Desk → Except Failure (List Rule) × Desk
  | [], desk => (.ok [], desk)
  | t :: rest, desk =>
    if desk.store.contains t.id then seedFrom now rest desk
    else match desk.add now (t.rule now) with
      | (.error e, desk) => (.error e, desk)
      | (.ok stored, desk) =>
        let (others, desk) := seedFrom now rest desk
        (others.map (stored :: ·), desk)

/-- Adds the missing system rules to the store. -/
def seed (g : Registry) (now : Timestamp) (desk : Desk) : Except Failure (List Rule) × Desk :=
  seedFrom now g.templates desk

end Registry

end ReceiptRules
