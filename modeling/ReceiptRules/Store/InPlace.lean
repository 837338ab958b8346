import ReceiptRules.Store.Office

/-!
# Operations in place

The operations of a store as programs that look up a rule, write to its fields and go on. What is
written stays written, also when a later step fails.
-/

namespace ReceiptRules

/-- A program on a desk, whose failure takes back nothing that it has written. -/
abbrev Program := ExceptT Failure (StateM Desk)

/-- An operation on a single store, with its arguments. -/
inductive Call where
  | add (r : Rule)
  | update (r : Rule)
  | delete (id : String)
  | get (id : String)
  | setEnabled (id : String) (enabled : Bool)
  | toggle (id : String)
  | reorder (ids : List String)
  | move (id : String) (place : Int)

namespace Program

/-- What a program gives on a desk, and the desk behind it. -/
def on {α : Type} (p : Program α) (desk : Desk) : Except Failure α × Desk := (p.run.run desk).run

/-! ## Steps -/

/-- Reads from the store, which may fail. -/
def look {α : Type} (f : Store → Except Failure α) : Program α := do
  liftExcept (f (← get).store)

def modifyStore (f : Store → Store) : Program Unit :=
  modify fun desk ↦ { desk with store := f desk.store }

/-- Writes a rule to the place of its identifier. -/
def write (r : Rule) : Program Unit := modifyStore fun s ↦ { s with table := s.table.put r }

/-! ## Operations -/

def add (now : Timestamp) (r : Rule) : Program Rule := do
  look fun s ↦ r.check s.settings
  let id ← modifyGet fun desk ↦ desk.identify r
  if ← look fun s ↦ .ok (s.contains id) then throw (.duplicateRule id)
  else
    let sequence ← look fun s ↦ .ok s.nextSequence
    let stored := { r with id, sequence, createdAt := now, updatedAt := now }
    modifyStore fun s ↦ { s with nextSequence := s.nextSequence + 1 }
    write stored
    return stored

def update (now : Timestamp) (r : Rule) : Program Rule := do
  let current ← look fun s ↦ s.get r.id
  look fun s ↦ r.check s.settings
  let stored :=
    { r with
      sequence := current.sequence
      createdAt := current.createdAt
      isSystemRule := current.isSystemRule
      updatedAt := now }
  write stored
  return stored

def delete (id : String) : Program Unit := do
  let r ← look fun s ↦ s.get id
  if r.isSystemRule then throw (.permanentRule r.name)
  else modifyStore fun s ↦ { s with table := s.table.erase id }

def setEnabled (now : Timestamp) (id : String) (enabled : Bool) : Program Rule := do
  let r ← look fun s ↦ s.get id
  write { r with enabled }
  write { r with enabled, updatedAt := now }
  return { r with enabled, updatedAt := now }

def toggle (now : Timestamp) (id : String) : Program Rule := do
  let r ← look fun s ↦ s.get id
  setEnabled now id (!r.enabled)

/-- Gives a rule a priority, and the moment if that is a new one. -/
def rank (now : Timestamp) (id : String) (priority : Int) : Program Unit := do
  let r ← look fun s ↦ s.get id
  if r.priority = priority then return ()
  else
    write { r with priority }
    write { r with priority, updatedAt := now }

/-- Numbers rules one by one, down to zero for the last. It stops at an identifier without a rule,
and the rules in front of it have their numbers then. -/
def renumber (now : Timestamp) : List String → Program Unit
  | [] => return ()
  | id :: rest => do
    rank now id rest.length
    renumber now rest

def reorder (now : Timestamp) (ids : List String) : Program (List Rule) := do
  if ← look fun s ↦ .ok (ids.isPerm (Rule.ids s.table.rules)) then
    renumber now ids
    look fun s ↦ .ok s.rules
  else throw .incompleteOrder

def move (now : Timestamp) (id : String) (place : Int) : Program (List Rule) := do
  let _ ← look fun s ↦ s.get id
  let order ← look fun s ↦ .ok (Rule.ids s.rules)
  reorder now (Store.moved id place order)

end Program

namespace Call

open Program

def program (now : Timestamp) : Call → Program Reply
  | add r => .rule <$> Program.add now r
  | update r => .rule <$> Program.update now r
  | delete id => (fun _ ↦ .done) <$> Program.delete id
  | get id => .rule <$> look fun s ↦ s.get id
  | setEnabled id enabled => .rule <$> Program.setEnabled now id enabled
  | toggle id => .rule <$> Program.toggle now id
  | reorder ids => .rules <$> Program.reorder now ids
  | move id place => .rules <$> Program.move now id place

/-- The same operation as a request. -/
def request : Call → Request
  | add r => .add r
  | update r => .change (.update r)
  | delete id => .change (.delete id)
  | get id => .ask (.get id)
  | setEnabled id enabled => .change (.setEnabled id enabled)
  | toggle id => .change (.toggle id)
  | reorder ids => .change (.reorder ids)
  | move id place => .change (.move id place)

end Call

end ReceiptRules
