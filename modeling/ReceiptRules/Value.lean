import ReceiptRules.Binary64
import ReceiptRules.Timestamp

/-!
# Values

What a receipt can hold under a key and what a stored document is made of. Objects keep the order in
which their keys came first; a key that comes again replaces the value and keeps the place. The kinds
of values are a closed list: objects of any other kind, which a caller could place in a receipt, are
left out.
-/

namespace ReceiptRules

inductive Value where
  | null
  | bool (b : Bool)
  | int (n : Int)
  | float (x : Binary64)
  | decimal (d : Decimal.Extended)
  | text (s : String)
  /-- A receipt type by its name; it counts as that text. -/
  | receiptType (name : String)
  | date (d : Date)
  | timestamp (t : Timestamp)
  | list (items : List Value)
  | object (entries : List (String × Value))

namespace Value

/-- Places a value under a key. -/
def insert {α : Type} (key : String) (value : α) : List (String × α) → List (String × α)
  | [] => [(key, value)]
  | (k, v) :: rest => if k = key then (k, value) :: rest else (k, v) :: insert key value rest

/-- Entries with each key once, from entries in which keys may come again. -/
def distinct {α : Type} (entries : List (String × α)) : List (String × α) :=
  entries.foldl (fun known (k, v) ↦ insert k v known) []

def ofOption {α : Type} (f : α → Value) : Option α → Value
  | some a => f a
  | none => null

/-- The value under a key of an object. -/
def get? (key : String) : Value → Option Value
  | object entries => entries.lookup key
  | _ => none

/-- The name of the kind of a value. -/
def kindName : Value → String
  | null => "NoneType"
  | bool _ => "bool"
  | int _ => "int"
  | float _ => "float"
  | decimal _ => "decimal.Decimal"
  | text _ => "str"
  | receiptType _ => "ReceiptType"
  | date _ => "datetime.date"
  | timestamp _ => "datetime.datetime"
  | list _ => "list"
  | object _ => "dict"

end Value

end ReceiptRules
