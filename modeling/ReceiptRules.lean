import ReceiptRules.ArchiveNumber
import ReceiptRules.Batch
import ReceiptRules.Binary64
import ReceiptRules.Binary64.Shortest
import ReceiptRules.Category
import ReceiptRules.CommandLine.Arguments
import ReceiptRules.CommandLine.Catalog
import ReceiptRules.CommandLine.Classify
import ReceiptRules.CommandLine.Files
import ReceiptRules.Condition.Combine
import ReceiptRules.Condition.Evaluate
import ReceiptRules.Date
import ReceiptRules.Date.Format
import ReceiptRules.Date.Iso
import ReceiptRules.Date.Reader
import ReceiptRules.Decimal
import ReceiptRules.Decimal.Reader
import ReceiptRules.Decimal.Text
import ReceiptRules.Directive
import ReceiptRules.Directive.Apply
import ReceiptRules.Document
import ReceiptRules.Document.Directives
import ReceiptRules.Document.Rules
import ReceiptRules.Engine
import ReceiptRules.Failure
import ReceiptRules.Field
import ReceiptRules.Field.Content
import ReceiptRules.Json.Reader
import ReceiptRules.Json.Writer
import ReceiptRules.Main
import ReceiptRules.Pattern
import ReceiptRules.Pattern.Matcher
import ReceiptRules.Pattern.Node
import ReceiptRules.Pattern.Problem
import ReceiptRules.Pattern.Reader
import ReceiptRules.Receipt.Listing
import ReceiptRules.Report.Markdown
import ReceiptRules.Rule
import ReceiptRules.Rule.Check
import ReceiptRules.Rule.Order
import ReceiptRules.Rule.Resolve
import ReceiptRules.Rule.Table
import ReceiptRules.Store
import ReceiptRules.Store.Desk
import ReceiptRules.Store.Document
import ReceiptRules.Store.Office
import ReceiptRules.Store.Registry
import ReceiptRules.Store.SystemRules
import ReceiptRules.Text.Case
import ReceiptRules.Text.CaseTable
import ReceiptRules.Text.CharacterClass
import ReceiptRules.Text.CharacterName
import ReceiptRules.Text.Digit
import ReceiptRules.Text.Quoted
import ReceiptRules.Text.Search
import ReceiptRules.Timestamp
import ReceiptRules.Timestamp.Reader
import ReceiptRules.Value
import ReceiptRules.Value.Reading
import ReceiptRules.Value.Text
import ReceiptRules.Vocabulary
import ReceiptRules.Yaml.Writer
import ReceiptRules.Proofs.Text.Blank
import ReceiptRules.Proofs.Condition.Notes
import ReceiptRules.Proofs.Rule.EvaluationOrder
import ReceiptRules.Proofs.Rule.Resolution
import ReceiptRules.Proofs.ArchiveNumber.WrittenForm
import ReceiptRules.Proofs.ArchiveNumber.RoundTrip
import ReceiptRules.Proofs.ArchiveNumber.Counting
import ReceiptRules.Proofs.Directive.Request
import ReceiptRules.Proofs.Engine.Numbering
import ReceiptRules.Proofs.Engine.Rereading
import ReceiptRules.Proofs.Batch.Numbering
import ReceiptRules.Proofs.Batch.Order
import ReceiptRules.Proofs.CommandLine.NumbersFile
import ReceiptRules.Proofs.CommandLine.RepeatedRuns
import ReceiptRules.Proofs.ArchiveNumber.Calls
import ReceiptRules.Proofs.Directive.Notes
import ReceiptRules.Proofs.Engine.Notes
import ReceiptRules.Proofs.Batch.Notes
import ReceiptRules.Proofs.Date.Matching
import ReceiptRules.Proofs.Date.Reading
import ReceiptRules.Proofs.Date.Spelling
import ReceiptRules.Proofs.Date.RoundTrip
import ReceiptRules.Proofs.Value.Days
import ReceiptRules.Proofs.Directive.Day
import ReceiptRules.Proofs.Condition.Validation
import ReceiptRules.Proofs.Rule.Sorting
import ReceiptRules.Proofs.Rule.Table
import ReceiptRules.Proofs.Timestamp.Reading
import ReceiptRules.Proofs.Document.Rules
import ReceiptRules.Proofs.Store.Saving
import ReceiptRules.Proofs.Store.Steps
import ReceiptRules.Proofs.Store.Reloading
import ReceiptRules.Proofs.Rule.Validation
import ReceiptRules.Proofs.Store.Validated
import ReceiptRules.Proofs.Store.Twins
import ReceiptRules.Proofs.Store.Copies
import ReceiptRules.Proofs.Condition.Failures
import ReceiptRules.Proofs.Condition.Turns
import ReceiptRules.Proofs.Rule.Turns
import ReceiptRules.Proofs.Directive.Failures
import ReceiptRules.Proofs.Engine.Failures
import ReceiptRules.Proofs.Field.Content
import ReceiptRules.Proofs.Field.Keys
import ReceiptRules.Proofs.Receipt.Normalising
import ReceiptRules.Proofs.Store.Loading
import ReceiptRules.Proofs.Store.Frame
import ReceiptRules.Proofs.Store.Origins
import ReceiptRules.Proofs.Store.InPlace
import ReceiptRules.Proofs.Engine.Interchange
import ReceiptRules.Proofs.Engine.ExactlyOnce
import ReceiptRules.Proofs.Decimal.Value
import ReceiptRules.Proofs.Condition.Alike
import ReceiptRules.Proofs.CommandLine.UsageErrors
import ReceiptRules.Proofs.Engine.Alike
import ReceiptRules.Proofs.Batch.Accounting
import ReceiptRules.Proofs.Condition.Fold
import ReceiptRules.Proofs.Directive.Meaning
import ReceiptRules.Proofs.Store.Reordering
import ReceiptRules.Proofs.Condition.Rejected
import ReceiptRules.Proofs.Rule.Authoring
import ReceiptRules.Proofs.Engine.BadRule
import ReceiptRules.Proofs.Store.IncrementalSeeding
import ReceiptRules.Proofs.Text.Separator
import ReceiptRules.Proofs.Engine.ListSeparator
import ReceiptRules.Proofs.Store.CategoryCounts
import ReceiptRules.Proofs.Condition.Membership
import ReceiptRules.Proofs.Pattern.Matching
import ReceiptRules.Proofs.Pattern.Reading
import ReceiptRules.Proofs.Condition.Alternatives
import ReceiptRules.Proofs.Decimal.Reading
import ReceiptRules.Proofs.Decimal.RoundTrip
import ReceiptRules.Proofs.Date.Order
import ReceiptRules.Proofs.Value.Amounts
import ReceiptRules.Proofs.Value.Measure
import ReceiptRules.Proofs.Condition.Comparisons
