import ReceiptRules.Document
import ReceiptRules.Field
import ReceiptRules.Rule
import ReceiptRules.Field.Content

/-!
# Documents of rules, receipts and settings

Rules are written with all their parts in a fixed order. Reading is the other way round: parts that
have a usual value may be left out.
-/

namespace ReceiptRules

open Reader

namespace Condition

def ofDocument : Reader Condition := model fun entries ↦
  Condition.mk <$> required "field" member entries <*> required "operator" member entries <*>
    withDefault "value" "" text entries <*> withDefault "logical_operator" .and member entries

def toDocument (c : Condition) : Value := .object [
  ("field", .text c.field.word), ("operator", .text c.operator.word), ("value", .text c.value),
  ("logical_operator", .text (Vocabulary.word c.joiner))]

end Condition

namespace Action

def ofDocument : Reader Action := model fun entries ↦
  Action.mk <$> required "type" member entries <*> withDefault "value" "" text entries

def toDocument (a : Action) : Value := .object [
  ("type", .text a.kind.word), ("value", .text a.value)]

end Action

namespace RuleDraft

def ofParts (id name : String) (description : Option String) (enabled : Bool) (priority : Int)
    (conditions : List Condition) (actions : List Action) (isSystemRule : Bool) (sequence : Int)
    (createdAt updatedAt : Option Timestamp) : RuleDraft :=
  ⟨⟨id, name, description, enabled, priority, conditions, actions, isSystemRule, sequence⟩,
    createdAt, updatedAt⟩

def ofDocument : Reader RuleDraft := model fun entries ↦
  ofParts <$> withDefault "id" "" text entries <*> required "name" text entries <*>
    withDefault "description" none (optional text) entries <*>
    withDefault "enabled" true bool entries <*> withDefault "priority" 0 integer entries <*>
    withDefault "conditions" [] (list Condition.ofDocument) entries <*>
    withDefault "actions" [] (list Action.ofDocument) entries <*>
    withDefault "is_system_rule" false bool entries <*>
    withDefault "sequence" 0 integer entries <*>
    withDefault "created_at" none (fun v ↦ (timestamp v).map some) entries <*>
    withDefault "updated_at" none (fun v ↦ (timestamp v).map some) entries

end RuleDraft

namespace Rule

/-- Reads a rule; the given moment stands in for moments that the document leaves out. -/
def ofDocument (now : Timestamp) (v : Value) : Except Failure Rule :=
  ((RuleDraft.ofDocument v).map fun draft ↦ draft.stamped now).toExcept

def toDocument (r : Rule) : Value := .object [
  ("id", .text r.id), ("name", .text r.name),
  ("description", Value.ofOption .text r.description), ("enabled", .bool r.enabled),
  ("priority", .int r.priority), ("conditions", .list (r.conditions.map Condition.toDocument)),
  ("actions", .list (r.actions.map Action.toDocument)), ("is_system_rule", .bool r.isSystemRule),
  ("sequence", .int r.sequence), ("created_at", .text r.createdAt.stored),
  ("updated_at", .text r.updatedAt.stored)]

end Rule

namespace Settings

def ofDocument : Reader Settings := model fun entries ↦
  Settings.mk <$> withDefault "in_list_separator" "," text entries <*>
    withDefault "date_formats" Date.defaultFormats (list text) entries <*>
    withDefault "unmatched_category" none (optional member) entries <*>
    withDefault "unmatched_generate_archive_number" false bool entries <*>
    withDefault "default_category_code" (Category.archiveCode .other) text entries

def toDocument (s : Settings) : Value := .object [
  ("in_list_separator", .text s.listSeparator),
  ("date_formats", .list (s.dateFormats.map .text)),
  ("unmatched_category", Value.ofOption (fun c : Category ↦ .text c.word) s.unmatchedCategory),
  ("unmatched_generate_archive_number", .bool s.unmatchedNumbered),
  ("default_category_code", .text s.defaultCode)]

end Settings

namespace Receipt

def entries : Reader (List (String × Value))
  | .object entries => .ok entries
  | _ => fail .notObject

def ofDocument : Reader Receipt := model fun parts ↦
  Receipt.ofEntries <$> withDefault "receipt_id" none (optional text) parts <*>
    withDefault "values" [] entries parts

end Receipt

end ReceiptRules
