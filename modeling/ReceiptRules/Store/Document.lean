import ReceiptRules.Document.Rules
import ReceiptRules.Json.Writer
import ReceiptRules.Store
import ReceiptRules.Value.Reading

/-!
# Documents of stores

A store is saved with its rules in evaluation order and the next sequence number, unless one of its
numbers is too long to be written. Rules that are read back are taken as they are; a malformed one
is only noted when it is evaluated.
-/

namespace ReceiptRules.Store

open Text

def formatVersion : Nat := 1

def toDocument (s : Store) : Value := .object [
  ("version", .int formatVersion), ("next_sequence", .int s.nextSequence),
  ("rules", .list (s.rules.map Rule.toDocument))]

/-- The text of a saved store. -/
def saved (s : Store) : String := Json.write .document s.toDocument

/-- Whether all whole numbers of the store are short enough to be written. -/
def isWritable (s : Store) : Bool :=
  WholeNumber.writable s.nextSequence &&
    s.table.rules.all fun r ↦ WholeNumber.writable r.priority && WholeNumber.writable r.sequence

/-- Saves a store. -/
def save (s : Store) : Except Failure String :=
  if s.isWritable then .ok s.saved else .error .unwritableNumber

/-! ## Reading -/

/-- Reads rules up to the first that is none. -/
def readRules (now : Timestamp) (items : List Value) : Except Failure (List Rule) :=
  items.mapM (Rule.ofDocument now)

/-- The highest sequence number, zero if there are no rules. -/
def highestSequence : List Rule → Int
  | [] => 0
  | r :: rest => rest.foldl (fun top x ↦ max top x.sequence) r.sequence

/-- Reads a store. -/
def ofDocument (settings : Settings) (now : Timestamp) (v : Value) : Except Failure Store := do
  let items ← (← v.entryOr "rules" (.list [])).items
  let rules ← readRules now items
  let next ← (← v.entryOr "next_sequence" (.int 1)).wholeNumber
  return ⟨settings, .ofRules rules, max next (highestSequence rules + 1)⟩

/-- Reads a saved store. -/
def ofSaved (settings : Settings) (now : Timestamp) (text : String) : Except Failure Store :=
  match Json.read text with
  | .ok v => ofDocument settings now v
  | .error e => .error (.json e)

/-- Saves a store and goes on with the one that is read back. -/
def reload (s : Store) (now : Timestamp) : Except Failure (String × Store) := do
  let text ← s.save
  return (text, ← ofSaved s.settings now text)

end ReceiptRules.Store
