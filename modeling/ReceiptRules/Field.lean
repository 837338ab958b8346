import ReceiptRules.Text.Case
import ReceiptRules.Text.Search
import ReceiptRules.Value
import ReceiptRules.Vocabulary

/-!
# Receipt fields and receipts

The fields that rules can look at, the kind of value each of them holds, and the keys under which
receipts may carry them. A key denotes a field by the field's word, by one of its spellings, or by
a text whose small letters are such a spelling.

A receipt is a bag of values under keys, with an identifier of its own. Keys that denote a field are
replaced by the word of the field; of several values for one field the last one stays, in the place
of the first.
-/

namespace ReceiptRules

inductive FieldKind where
  | text | number | date
deriving DecidableEq, Repr

instance : Vocabulary FieldKind where
  all := [.text, .number, .date]
  word
    | .text => "TEXT"
    | .number => "NUMBER"
    | .date => "DATE"

inductive Field where
  | receiptType | amount | date | buyerName | sellerName | invoiceCode | invoiceNumber
  | expenseType | departurePlace | destination | fileName | remarks
deriving DecidableEq, Repr

namespace Field

def word : Field → String
  | receiptType => "RECEIPT_TYPE"
  | amount => "AMOUNT"
  | date => "DATE"
  | buyerName => "BUYER_NAME"
  | sellerName => "SELLER_NAME"
  | invoiceCode => "INVOICE_CODE"
  | invoiceNumber => "INVOICE_NUMBER"
  | expenseType => "EXPENSE_TYPE"
  | departurePlace => "DEPARTURE_PLACE"
  | destination => "DESTINATION"
  | fileName => "FILE_NAME"
  | remarks => "REMARKS"

def all : List Field := [
  receiptType, amount, date, buyerName, sellerName, invoiceCode, invoiceNumber, expenseType,
  departurePlace, destination, fileName, remarks]

instance : Vocabulary Field where
  all := all
  word := word

def kind : Field → FieldKind
  | amount => .number
  | date => .date
  | _ => .text

/-- Other keys of a field: its words in small letters, joined by underscores or written together,
and the names that totals and dates had before. -/
def spellings : Field → List String
  | receiptType => ["receipt_type", "receiptType"]
  | amount => ["amount", "totalAmount", "total_amount"]
  | date => ["date", "invoiceDate", "invoice_date"]
  | buyerName => ["buyer_name", "buyerName"]
  | sellerName => ["seller_name", "sellerName"]
  | invoiceCode => ["invoice_code", "invoiceCode"]
  | invoiceNumber => ["invoice_number", "invoiceNumber"]
  | expenseType => ["expense_type", "expenseType"]
  | departurePlace => ["departure_place", "departurePlace"]
  | destination => ["destination"]
  | fileName => ["file_name", "fileName"]
  | remarks => ["remarks"]

def ofWord? (s : String) : Option Field := all.find? fun f ↦ f.word == s

def ofSpelling? (s : String) : Option Field := all.find? fun f ↦ f.spellings.contains s

/-- The field that a key denotes. -/
def ofKey? (key : String) : Option Field :=
  let text := Text.Blank.trim key
  (ofWord? text).or ((ofSpelling? text).or (ofSpelling? (Text.Case.lowerText text)))

/-- The key under which a receipt keeps the value: the word of the field that it denotes, or the key
itself. -/
def canonicalKey (key : String) : String :=
  match ofKey? key with
  | some f => f.word
  | none => key

end Field

/-! ## Receipts -/

structure Receipt where
  id : Option String
  values : List (String × Value)

namespace Receipt

/-- A receipt from entries under any keys. -/
def ofEntries (id : Option String) (entries : List (String × Value)) : Receipt :=
  ⟨id, Value.distinct (entries.map fun (k, v) ↦ (Field.canonicalKey k, v))⟩

/-- The value of a field, null where there is none. -/
def get (r : Receipt) (f : Field) : Value := (r.values.lookup f.word).getD .null

end Receipt

end ReceiptRules
