import ReceiptRules.Document.Rules
import ReceiptRules.Text.Search
import ReceiptRules.Value.Reading

/-!
# Listings of receipts

A listing is a list of receipts, or an object that holds one. A receipt in it is a document of its
own or a flat collection of values, which may hold the identifier of the receipt; without one it is
known by its number in the listing.
-/

namespace ReceiptRules.Receipt

open Text

/-- Whether a value has a member: the key of an object, an item of a list, a piece of a text. -/
def mentions (member : String) : Value → Except Failure Bool
  | .object entries => .ok (entries.any fun (k, _) ↦ k == member)
  | .list items => .ok (items.any fun v ↦ match v with
    | .text s => s == member
    | _ => false)
  | .text s | .receiptType s => .ok (Search.occursIn member s)
  | v => .error (.noMembers v.kindName)

/-! ## Flat receipts -/

/-- The text of a key. Lists and objects cannot be keys. -/
def keyText : Value → Except Failure String
  | .list _ => .error (.unfitKey "list")
  | .object _ => .error (.unfitKey "dict")
  | v => .ok v.asText

/-- Key and value from something that holds exactly two items. -/
def pair (index : Nat) (v : Value) : Except Failure (String × Value) :=
  match v.items? with
  | none => .error (.pairNotSequence index)
  | some [key, value] => (keyText key).map fun k ↦ (k, value)
  | some items => .error (.pairLength index items.length)

def pairsFrom : Nat → List Value → Except Failure (List (String × Value))
  | _, [] => .ok []
  | n, v :: rest => do
    let first ← pair n v
    return first :: (← pairsFrom (n + 1) rest)

/-- The entries of an object, or of pairs. -/
def entriesOf : Value → Except Failure (List (String × Value))
  | .object entries => .ok entries
  | v => do return Value.distinct (← pairsFrom 0 (← v.items))

def without (key : String) (entries : List (String × Value)) : List (String × Value) :=
  entries.filter fun (k, _) ↦ k != key

/-- Names under which a flat receipt may hold its identifier, the first that is filled winning. -/
def identifierKeys : List String := ["receipt_id", "id"]

/-- Takes the identifier out of the entries; keys behind the one that is used stay. -/
def takeIdentifier : List String → List (String × Value) →
    Option Value × List (String × Value)
  | [], entries => (none, entries)
  | key :: keys, entries =>
    match (entries.lookup key).filter Value.isPresent with
    | some v => (some v, without key entries)
    | none => takeIdentifier keys (without key entries)

def ofFlat (number : Nat) (entries : List (String × Value)) : Receipt :=
  let (identifier, values) := takeIdentifier identifierKeys entries
  ofEntries (some ((identifier.map Value.asText).getD (toString number))) values

/-! ## Listings -/

def ofEntry (number : Nat) (v : Value) : Except Failure Receipt := do
  if ← mentions "values" v then (ofDocument v).toExcept
  else return ofFlat number (← entriesOf v)

def ofEntriesFrom : Nat → List Value → Except Failure (List Receipt)
  | _, [] => .ok []
  | n, v :: rest => do
    let first ← ofEntry n v
    return first :: (← ofEntriesFrom (n + 1) rest)

/-- The receipts of a listing. -/
def ofListing (v : Value) : Except Failure (List Receipt) := do
  let listed ← match v with
    | .object _ => v.entryOr "receipts" (.list [])
    | v => .ok v
  ofEntriesFrom 1 (← listed.items)

end ReceiptRules.Receipt
