import ReceiptRules.Text.Quoted
import ReceiptRules.Rule.Check
import ReceiptRules.Rule.Table

/-!
# Rule stores

A store keeps rules under their identifiers and numbers them in the order in which they come. Rules
are checked when they are added or changed. Rules that belong to the system can be switched off but
not removed.
-/

namespace ReceiptRules

open Text

structure Store where
  settings : Settings
  table : Rule.Table
  nextSequence : Int

namespace Store

def empty (settings : Settings) : Store := ⟨settings, .empty, 1⟩

/-- All rules in evaluation order. -/
def rules (s : Store) : List Rule := s.table.ordered

/-- The rules that a classification looks at. -/
def enabledRules (s : Store) : List Rule := s.rules.filter fun r ↦ r.enabled

def contains (s : Store) (id : String) : Bool := s.table.contains id

def get (s : Store) (id : String) : Except Failure Rule :=
  match s.table.find? id with
  | some r => .ok r
  | none => .error (.unknownRule id)

/-! ## Adding and changing rules -/

/-- Stores a rule under an identifier that is not taken yet, behind all rules of its priority. -/
def insert (s : Store) (now : Timestamp) (id : String) (r : Rule) : Except Failure (Rule × Store) :=
  if s.contains id then .error (.duplicateRule id)
  else
    let stored :=
      { r with id := id, sequence := s.nextSequence, createdAt := now, updatedAt := now }
    .ok (stored, { s with table := s.table.put stored, nextSequence := s.nextSequence + 1 })

/-- Replaces the rule with the same identifier. Its rank, its origin and the moment at which it was
made stay. -/
def update (s : Store) (now : Timestamp) (r : Rule) : Except Failure (Rule × Store) := do
  let current ← s.get r.id
  r.check s.settings
  let stored :=
    { r with
      sequence := current.sequence
      createdAt := current.createdAt
      isSystemRule := current.isSystemRule
      updatedAt := now }
  return (stored, { s with table := s.table.put stored })

def delete (s : Store) (id : String) : Except Failure Store := do
  let r ← s.get id
  if r.isSystemRule then .error (.permanentRule r.name)
  else return { s with table := s.table.erase id }

def setEnabled (s : Store) (now : Timestamp) (id : String) (enabled : Bool) :
    Except Failure (Rule × Store) := do
  let r ← s.get id
  let stored := { r with enabled := enabled, updatedAt := now }
  return (stored, { s with table := s.table.put stored })

def toggle (s : Store) (now : Timestamp) (id : String) : Except Failure (Rule × Store) := do
  let r ← s.get id
  s.setEnabled now id (!r.enabled)

/-! ## Order -/

/-- The priority of the rule at a place in a list of identifiers: the last one has zero. -/
def priorityAt (ids : List String) (place : Nat) : Int := (ids.length : Int) - 1 - place

/-- Gives a rule its place in a list of identifiers. -/
def placedIn (now : Timestamp) (ids : List String) (r : Rule) : Rule :=
  match ids.idxOf? r.id with
  | none => r
  | some place =>
    let priority := priorityAt ids place
    if r.priority = priority then r else { r with priority := priority, updatedAt := now }

/-- Makes a list of identifiers the evaluation order. It has to name every rule exactly once. -/
def reorder (s : Store) (now : Timestamp) (ids : List String) : Except Failure Store :=
  if ids.isPerm (Rule.ids s.table.rules) then
    .ok { s with table := s.table.modify (placedIn now ids) }
  else .error .incompleteOrder

/-- Takes an identifier to a place in the order; places beyond the ends are the ends. -/
def moved (id : String) (place : Int) (order : List String) : List String :=
  let others := order.erase id
  others.take place.toNat ++ id :: others.drop place.toNat

/-- Moves a rule to a place in the evaluation order. -/
def move (s : Store) (now : Timestamp) (id : String) (place : Int) : Except Failure Store := do
  let _ ← s.get id
  s.reorder now (moved id place (Rule.ids s.rules))

/-! ## Looking for rules -/

def mentions (needle : String) (r : Rule) : Bool :=
  Search.occursIn needle r.name || r.description.any (Search.occursIn needle)

/-- Rules whose name or description holds the text, blanks around it apart. -/
def search (s : Store) (text : String) : List Rule := s.rules.filter (mentions (Blank.trim text))

def setsCategory (c : Category) (r : Rule) : Bool :=
  r.actions.any fun a ↦ a.kind == .setCategory && a.value == c.word

/-- How many rules set each category, for the categories that some rule sets. -/
def categoryCounts (rules : List Rule) : List (String × Nat) :=
  (Category.all.map fun c ↦ (s!"category:{c.word}", rules.countP (setsCategory c))).filter
    fun (_, n) ↦ n != 0

/-- How many rules there are, in all and of each kind. -/
def counts (s : Store) : List (String × Nat) :=
  let rules := s.table.rules
  [("total", rules.length), ("enabled", rules.countP fun r ↦ r.enabled),
    ("disabled", rules.countP fun r ↦ !r.enabled), ("system", rules.countP fun r ↦ r.isSystemRule),
    ("custom", rules.countP fun r ↦ !r.isSystemRule)] ++ categoryCounts rules

end Store

end ReceiptRules
