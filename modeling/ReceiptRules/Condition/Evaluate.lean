import ReceiptRules.Field.Content
import ReceiptRules.Vocabulary
import ReceiptRules.Pattern
import ReceiptRules.Rule
import ReceiptRules.Text.Search

/-!
# Evaluating conditions

A condition holds of a receipt or not; what cannot be decided does not hold and is noted. A missing
field makes every condition fail, negated ones too. Numbers and dates are compared by value, and all
comparisons of one kind go through one scale.
-/

namespace ReceiptRules

open Text

/-- An outcome with the problems noted on the way. -/
structure Verdict where
  holds : Bool
  notes : List Diagnostic := []
deriving DecidableEq

/-- How contents and texts are read as values of one kind, and how these are ordered. -/
structure Scale (α : Type) where
  label : String
  ofContent : Content → Except Failure (Option α)
  ofText : String → Except Failure (Option α)
  order : α → α → Ordering

namespace Scale

def numbers : Scale Decimal where
  label := "number"
  ofContent
    | .number d => .ok (some d)
    | .text s => .ok (Decimal.amountOfText? s)
    | .date _ => .ok none
  ofText s := .ok (Decimal.amountOfText? s)
  order := Decimal.compareValue

def days (settings : Settings) : Scale Date where
  label := "date"
  ofContent
    | .date d => .ok (some d)
    | .text s => settings.dateOfText? s
    | .number _ => .ok none
  ofText := settings.dateOfText?
  order := Date.compareDays

end Scale

namespace Condition

def predicateNote (ruleId : Option String) (message : String) : Diagnostic :=
  ⟨ruleId, .malformedPredicate, message⟩

/-- How the content compares with the comparison text, or why it does not. -/
def compareOn {α : Type} (scale : Scale α) (c : Condition) (content : Content) :
    Except Failure (Except String Ordering) := do
  match ← scale.ofContent content with
  | none =>
    return .error
      s!"{c.field.word} value {Quoted.quote content.asText} is not a {scale.label}"
  | some left =>
    match ← scale.ofText c.value with
    | none =>
      return .error
        s!"{c.operator.word} comparison value {Quoted.quote c.value} is not a {scale.label}"
    | some right => return .ok (scale.order left right)

/-- Comparison as dates for date fields and as numbers for all others. -/
def compareSides (settings : Settings) (c : Condition) (content : Content) :
    Except Failure (Except String Ordering) :=
  match c.field.kind with
  | .date => compareOn (.days settings) c content
  | _ => compareOn .numbers c content

/-- The verdict of a test on the order of the two sides. -/
def orderVerdict (settings : Settings) (ruleId : Option String) (c : Condition) (content : Content)
    (test : Ordering → Bool) : Except Failure Verdict :=
  (compareSides settings c content).map fun
    | .ok order => ⟨test order, []⟩
    | .error message => ⟨false, [predicateNote ruleId message]⟩

/-- Equality: of texts as they are, of numbers and dates by value. -/
def equalityVerdict (settings : Settings) (ruleId : Option String) (c : Condition)
    (content : Content) (wanted : Bool) : Except Failure Verdict :=
  match c.field.kind with
  | .text => .ok ⟨(content.asText == c.value) == wanted, []⟩
  | _ => orderVerdict settings ruleId c content fun order ↦ (order == .eq) == wanted

/-- The trimmed pieces of the comparison text. -/
def listItems (settings : Settings) (c : Condition) : Except Failure (List String) :=
  if settings.listSeparator.isEmpty then .error .emptySeparator
  else .ok ((Search.split settings.listSeparator c.value).map Blank.trim)

/-- Looks for a value among the items; items that cannot be read are noted and ignored. -/
def memberOn {α : Type} (scale : Scale α) (ruleId : Option String) (c : Condition) (left : α) :
    List String → Except Failure Verdict
  | [] => .ok ⟨false, []⟩
  | item :: rest => do
    let parsed ← scale.ofText item
    let others ← memberOn scale ruleId c left rest
    match parsed with
    | none =>
      let message := s!"IN_LIST item {Quoted.quote item} ignored for {c.field.word}"
      return ⟨others.holds, predicateNote ruleId message :: others.notes⟩
    | some right => return ⟨scale.order left right == .eq || others.holds, others.notes⟩

/-- Membership of the content among items read on a scale. -/
def listOn {α : Type} (scale : Scale α) (ruleId : Option String) (c : Condition)
    (content : Content) (items : List String) : Except Failure Verdict := do
  match ← scale.ofContent content with
  | none =>
    let shown := Quoted.quote content.asText
    return ⟨false,
      [predicateNote ruleId s!"{c.field.word} value {shown} cannot be compared to list items"]⟩
  | some left => memberOn scale ruleId c left items

def listVerdict (settings : Settings) (ruleId : Option String) (c : Condition)
    (content : Content) : Except Failure Verdict := do
  let items ← listItems settings c
  match c.field.kind with
  | .text => return ⟨items.contains content.asText, []⟩
  | .number => listOn .numbers ruleId c content items
  | .date => listOn (.days settings) ruleId c content items

/-- Whether the pattern matches somewhere in the content. A malformed pattern is noted. -/
def patternVerdict (ruleId : Option String) (c : Condition) (content : Content) :
    Except Failure Verdict :=
  match Pattern.ofText c.value with
  | .ok pattern => .ok ⟨pattern.occursIn content.asText, []⟩
  | .error (.malformed cause position) =>
    let problem := (Pattern.Problem.malformed cause position).message c.value
    .ok ⟨false,
      [predicateNote ruleId s!"invalid regex {Quoted.quote c.value}: {problem}"]⟩
  | .error problem => .error (.pattern problem)

/-- The verdict on a content that is there. -/
def verdictOn (settings : Settings) (ruleId : Option String) (c : Condition) (content : Content) :
    Except Failure Verdict :=
  let text := content.asText
  match c.operator with
  | .equals => equalityVerdict settings ruleId c content true
  | .notEquals => equalityVerdict settings ruleId c content false
  | .contains => .ok ⟨Search.occursIn c.value text, []⟩
  | .notContains => .ok ⟨!Search.occursIn c.value text, []⟩
  | .greaterThan => orderVerdict settings ruleId c content (· == .gt)
  | .lessThan => orderVerdict settings ruleId c content (· == .lt)
  | .greaterEqual => orderVerdict settings ruleId c content (· != .lt)
  | .lessEqual => orderVerdict settings ruleId c content (· != .gt)
  | .startsWith => .ok ⟨c.value.toList.isPrefixOf text.toList, []⟩
  | .endsWith => .ok ⟨c.value.toList.isSuffixOf text.toList, []⟩
  | .regex => patternVerdict ruleId c content
  | .inList => listVerdict settings ruleId c content

/-- The verdict of a condition on a receipt. -/
def evaluate (settings : Settings) (ruleId : Option String) (receipt : Receipt) (c : Condition) :
    Except Failure Verdict := do
  match ← c.field.contentIn settings receipt with
  | none => return ⟨false, []⟩
  | some content => verdictOn settings ruleId c content

end Condition

end ReceiptRules
