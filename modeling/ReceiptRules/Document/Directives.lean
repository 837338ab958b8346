import ReceiptRules.Directive
import ReceiptRules.Document

/-!
# Documents of directives

Directives and diagnostics, read and written with all their parts.
-/

namespace ReceiptRules

open Reader

namespace Diagnostic

def ofDocument : Reader Diagnostic := model fun entries ↦
  Diagnostic.mk <$> withDefault "rule_id" none (optional text) entries <*>
    required "kind" member entries <*> required "message" text entries

def toDocument (d : Diagnostic) : Value := .object [
  ("rule_id", Value.ofOption .text d.ruleId), ("kind", .text (Vocabulary.word d.kind)),
  ("message", .text d.message)]

end Diagnostic

namespace ArchiveRequest

def ofDocument : Reader ArchiveRequest := model fun entries ↦
  ArchiveRequest.mk <$> withDefault "path" none (optional text) entries

def toDocument (r : ArchiveRequest) : Value := .object [("path", Value.ofOption .text r.path)]

end ArchiveRequest

namespace NumberKey

def ofDocument : Reader NumberKey := model fun entries ↦
  NumberKey.mk <$> required "period_key" text entries <*> required "category_code" text entries

def toDocument (k : NumberKey) : Value := .object [
  ("period_key", .text k.period), ("category_code", .text k.code)]

end NumberKey

namespace Directive

def ofDocument : Reader Directive := model fun entries ↦
  Directive.mk <$> withDefault "rule_id" none (optional text) entries <*>
    withDefault "category" none (optional member) entries <*>
    withDefault "sub_category" none (optional member) entries <*>
    withDefault "expense_type" none (optional text) entries <*>
    withDefault "department" none (optional text) entries <*>
    withDefault "project" none (optional text) entries <*>
    withDefault "tags" [] (list text) entries <*>
    withDefault "archive" none (optional ArchiveRequest.ofDocument) entries <*>
    withDefault "archive_number_request" none (optional NumberKey.ofDocument) entries <*>
    withDefault "archive_number" none (optional text) entries <*>
    withDefault "diagnostics" [] (list Diagnostic.ofDocument) entries

def toDocument (d : Directive) : Value := .object [
  ("rule_id", Value.ofOption .text d.ruleId),
  ("category", Value.ofOption (fun c : Category ↦ .text c.word) d.category),
  ("sub_category", Value.ofOption (fun c : SubCategory ↦ .text c.word) d.subCategory),
  ("expense_type", Value.ofOption .text d.expenseType),
  ("department", Value.ofOption .text d.department),
  ("project", Value.ofOption .text d.project), ("tags", .list (d.tags.map .text)),
  ("archive", Value.ofOption ArchiveRequest.toDocument d.archive),
  ("archive_number_request", Value.ofOption NumberKey.toDocument d.numberRequest),
  ("archive_number", Value.ofOption .text d.archiveNumber),
  ("diagnostics", .list (d.diagnostics.map Diagnostic.toDocument))]

end Directive

end ReceiptRules
