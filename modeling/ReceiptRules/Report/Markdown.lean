import ReceiptRules.Batch
import ReceiptRules.Text.Search

/-!
# Reports as text

A report as Markdown: the totals with the wins of each rule in the order of the identifiers, and a
section for each receipt.
-/

namespace ReceiptRules

open Text

namespace Outcome

def assignmentLine (entry : String × Value) : String := s!"- {entry.1}: {entry.2.asText}"

def archiveLine (request : ArchiveRequest) : String :=
  let path := request.path.getD ""
  "- archive path: " ++ if path.isEmpty then "(default)" else path

def directiveLines (d : Directive) : List String :=
  d.assignments.map assignmentLine ++ (d.archive.map archiveLine).toList

def noteLine (note : Diagnostic) : String :=
  let ruleId := note.ruleId.getD ""
  let shown := if ruleId.isEmpty then "-" else ruleId
  s!"  - [{Vocabulary.word note.kind}] {shown}: {note.message}"

def noteLines (notes : List Diagnostic) : List String :=
  if notes.isEmpty then [] else "- Diagnostics:" :: notes.map noteLine

def heading (o : Outcome) : String := if o.matched then o.ruleName.getD "None" else "unmatched"

def markdownLines (o : Outcome) : List String :=
  let receipt := o.receiptId.getD "None"
  let changes := (o.directive.map directiveLines).getD []
  ["", s!"### {receipt}: {o.heading}"] ++ changes ++ noteLines o.notes

end Outcome

namespace Report

def winLines (r : Report) : List String :=
  (Ordered.ofList (r.byRule.map Prod.fst)).map fun id ↦
    s!"- rule {id}: {(r.byRule.lookup id).getD 0}"

def markdownLines (r : Report) : List String :=
  [s!"# Classification run {r.batchId}", "", s!"Generated at: {r.generatedAt.iso}",
    s!"Rules evaluated: {r.ruleCount}", "", "## Totals", s!"- matched: {r.matched}",
    s!"- unmatched: {r.unmatched}"] ++ r.winLines ++ ["", "## Results"] ++
    r.outcomes.flatMap Outcome.markdownLines

def markdown (r : Report) : String := String.join (r.markdownLines.map fun line ↦ line ++ "\n")

end Report

end ReceiptRules
