import ReceiptRules.Category
import ReceiptRules.Vocabulary
import ReceiptRules.Value

/-!
# Directives

What is to be changed about a receipt: the values to set, the tags to add, and requests to archive
the receipt and to give it an archive number.
-/

namespace ReceiptRules

structure ArchiveRequest where
  /-- No path stands for the default location. -/
  path : Option String
deriving DecidableEq, Repr

/-- Period and category code, within which archive numbers count up. -/
structure NumberKey where
  period : String
  code : String
deriving DecidableEq, Repr

structure Directive where
  ruleId : Option String := none
  category : Option Category := none
  subCategory : Option SubCategory := none
  expenseType : Option String := none
  department : Option String := none
  project : Option String := none
  tags : List String := []
  archive : Option ArchiveRequest := none
  numberRequest : Option NumberKey := none
  archiveNumber : Option String := none
  diagnostics : List Diagnostic := []
deriving DecidableEq, Repr

namespace Directive

/-- The values that the directive sets, by name; what it leaves alone does not occur. -/
def assignments (d : Directive) : List (String × Value) :=
  let texts := [
    ("category", d.category.map Category.word),
    ("sub_category", d.subCategory.map SubCategory.word),
    ("expense_type", d.expenseType), ("department", d.department), ("project", d.project)]
  texts.filterMap (fun (name, value) ↦ value.map fun v ↦ (name, .text v)) ++
    (if d.tags.isEmpty then [] else [("tags", .list (d.tags.map .text))]) ++
    (d.archiveNumber.map fun n ↦ ("archive_number", Value.text n)).toList

/-- Whether something is to be done beside setting values. -/
def hasSideEffects (d : Directive) : Bool := d.archive.isSome || d.numberRequest.isSome

end Directive

end ReceiptRules
