import ReceiptRules.Field
import ReceiptRules.Timestamp

/-!
# Rules

A rule joins conditions on receipt fields and names the actions to take when they hold. Rules are
tried in order of falling priority; among equal priorities the lower sequence number comes first.
-/

namespace ReceiptRules

inductive Operator where
  | equals | notEquals | contains | notContains | greaterThan | lessThan | greaterEqual | lessEqual
  | startsWith | endsWith | regex | inList
deriving DecidableEq, Repr

namespace Operator

def all : List Operator := [
  equals, notEquals, contains, notContains, greaterThan, lessThan, greaterEqual, lessEqual,
  startsWith, endsWith, regex, inList]

def word : Operator → String
  | equals => "EQUALS"
  | notEquals => "NOT_EQUALS"
  | contains => "CONTAINS"
  | notContains => "NOT_CONTAINS"
  | greaterThan => "GREATER_THAN"
  | lessThan => "LESS_THAN"
  | greaterEqual => "GREATER_EQUAL"
  | lessEqual => "LESS_EQUAL"
  | startsWith => "STARTS_WITH"
  | endsWith => "ENDS_WITH"
  | regex => "REGEX"
  | inList => "IN_LIST"

instance : Vocabulary Operator where
  all := all
  word := word

/-- Equality and list membership fit every kind; texts are searched, numbers and dates ordered. -/
def fits : Operator → FieldKind → Bool
  | equals, _ | notEquals, _ | inList, _ => true
  | contains, k | notContains, k | startsWith, k | endsWith, k | regex, k => k == .text
  | greaterThan, k | lessThan, k | greaterEqual, k | lessEqual, k => k != .text

def supportedOn (op : Operator) (field : Field) : Bool := op.fits field.kind

end Operator

inductive Joiner where
  | and | or
deriving DecidableEq, Repr

instance : Vocabulary Joiner where
  all := [.and, .or]
  word
    | .and => "AND"
    | .or => "OR"

structure Condition where
  field : Field
  operator : Operator
  value : String := ""
  /-- Joins the condition to the one behind it. -/
  joiner : Joiner := .and
deriving DecidableEq, Repr

inductive ActionKind where
  | setCategory | setSubCategory | setExpenseType | setDepartment | setProject | addTag | archive
  | generateArchiveNumber
deriving DecidableEq, Repr

namespace ActionKind

def all : List ActionKind := [
  setCategory, setSubCategory, setExpenseType, setDepartment, setProject, addTag, archive,
  generateArchiveNumber]

def word : ActionKind → String
  | setCategory => "SET_CATEGORY"
  | setSubCategory => "SET_SUB_CATEGORY"
  | setExpenseType => "SET_EXPENSE_TYPE"
  | setDepartment => "SET_DEPARTMENT"
  | setProject => "SET_PROJECT"
  | addTag => "ADD_TAG"
  | archive => "ARCHIVE"
  | generateArchiveNumber => "GENERATE_ARCHIVE_NUMBER"

instance : Vocabulary ActionKind where
  all := all
  word := word

end ActionKind

structure Action where
  kind : ActionKind
  value : String := ""
deriving DecidableEq, Repr

/-- A rule apart from the moments at which it was made and changed. -/
structure RuleBody where
  id : String := ""
  name : String
  description : Option String := none
  enabled : Bool := true
  priority : Int := 0
  conditions : List Condition := []
  actions : List Action := []
  isSystemRule : Bool := false
  /-- Rank among rules of equal priority. -/
  sequence : Int := 0
deriving DecidableEq

structure Rule extends RuleBody where
  createdAt : Timestamp
  updatedAt : Timestamp
deriving DecidableEq

/-- A rule that may leave its moments open. -/
structure RuleDraft extends RuleBody where
  createdAt : Option Timestamp := none
  updatedAt : Option Timestamp := none
deriving DecidableEq

/-- The rule of a draft, the given moment standing in for those left open. -/
def RuleDraft.stamped (draft : RuleDraft) (now : Timestamp) : Rule :=
  { draft.toRuleBody with
    createdAt := draft.createdAt.getD now
    updatedAt := draft.updatedAt.getD now }

end ReceiptRules
