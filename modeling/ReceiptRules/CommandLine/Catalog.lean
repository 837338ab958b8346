import ReceiptRules.CommandLine.Arguments
import ReceiptRules.Document.Rules
import ReceiptRules.Json.Writer
import ReceiptRules.Store.SystemRules
import ReceiptRules.Value
import ReceiptRules.Yaml.Writer

/-!
# The catalog

What rules can be made of: the fields with their kinds and operators, the actions, the categories,
and the built-in rules in the order in which they are tried. The command prints it as YAML or JSON with
the entries of all objects in the order of their keys, and with an empty line behind it in YAML.
-/

/-! ## Sorted values -/

namespace ReceiptRules.Value

/-- Puts an entry into a list of entries sorted by key. -/
def placeEntry (entry : String × Value) : List (String × Value) → List (String × Value)
  | [] => [entry]
  | (k, v) :: rest =>
    if entry.1 < k then entry :: (k, v) :: rest else (k, v) :: placeEntry entry rest

mutual

def sorted : Value → Value
  | list items => list (sortedItems items)
  | object entries => object (sortedEntries entries)
  | v => v

def sortedItems : List Value → List Value
  | [] => []
  | v :: rest => sorted v :: sortedItems rest

def sortedEntries : List (String × Value) → List (String × Value)
  | [] => []
  | (k, v) :: rest => placeEntry (k, sorted v) (sortedEntries rest)

end

end ReceiptRules.Value

/-! ## What rules are made of -/

namespace ReceiptRules.Catalog

def wordList (α : Type) [Vocabulary α] : Value := .list ((Vocabulary.words α).map .text)

def fieldEntry (f : Field) : Value := .object [
  ("field", .text f.word), ("kind", .text (Vocabulary.word f.kind)),
  ("operators", .list ((Operator.all.filter fun op ↦ op.supportedOn f).map fun op ↦ .text op.word))]

def categoryEntry (c : Category) : Value := .object [
  ("category", .text c.word), ("display_name", .text c.displayName),
  ("archive_code", .text c.archiveCode)]

def ruleEntry (t : Template) : Value := .object [
  ("rule_id", .text t.id), ("name", .text t.draft.name),
  ("description", .text (t.draft.description.getD "")), ("priority", .int t.draft.priority),
  ("conditions", .list (t.draft.conditions.map Condition.toDocument)),
  ("action_types", .list (t.draft.actions.map fun a ↦ .text a.kind.word))]

/-- Whether a template is listed before another: by priority, then by identifier. -/
def listedBefore (a b : Template) : Bool :=
  b.draft.priority < a.draft.priority || (a.draft.priority == b.draft.priority && a.id < b.id)

def placeTemplate (t : Template) : List Template → List Template
  | [] => [t]
  | x :: rest => if listedBefore t x then t :: x :: rest else x :: placeTemplate t rest

def listed (templates : List Template) : List Template := templates.foldr placeTemplate []

/-- The catalog of a registry of system rules. -/
def ofRegistry (g : Registry) : Value := .object [
  ("receipt_fields", .list (Field.all.map fieldEntry)), ("operators", wordList Operator),
  ("action_types", wordList ActionKind), ("categories", .list (Category.all.map categoryEntry)),
  ("sub_categories", wordList SubCategory),
  ("system_rules", .list ((listed g.templates).map ruleEntry))]

def builtIn : Value := ofRegistry SystemRules.registry

end ReceiptRules.Catalog

/-! ## The command -/

namespace ReceiptRules.CommandLine.Catalog

def format : OptionSpec := .choice "--format" ["yaml", "json"]

def interface : Interface where
  program := "catalog"
  operand := none
  options := [format]

def printed (form : String) : String :=
  let catalog := ReceiptRules.Catalog.builtIn.sorted
  (if form = "json" then Json.write .document catalog else Yaml.write catalog) ++ "\n"

/-- What the command prints. -/
def run (arguments : List String) : Except Halt String :=
  (interface.read arguments).map fun a ↦ printed ((a.value? format).getD "yaml")

end ReceiptRules.CommandLine.Catalog
