import ReceiptRules.Rule.Check
import ReceiptRules.Text.Search

/-!
# Applying actions

The actions of a rule are folded into one directive. Of several actions that set the same value the
last one counts; tags are joined. Requests to archive and to number are only noted on the directive.
Actions that are not valid are skipped and noted there too, each note once.
-/

namespace ReceiptRules.Directive

open Text

/-- A directive in the making. -/
structure Draft where
  directive : Directive
  numberRequested : Bool := false
  /-- The code of the last numbering action that names one. -/
  code : Option String := none
  notes : List Diagnostic := []

/-- Takes a valid action into the draft. -/
def Draft.take (draft : Draft) (a : Action) : Draft :=
  let value := Blank.trim a.value
  let d := draft.directive
  match a.kind with
  | .setCategory => { draft with directive := { d with category := Category.ofWord? value } }
  | .setSubCategory =>
    { draft with directive := { d with subCategory := SubCategory.ofWord? value } }
  | .setExpenseType => { draft with directive := { d with expenseType := some value } }
  | .setDepartment => { draft with directive := { d with department := some value } }
  | .setProject => { draft with directive := { d with project := some value } }
  | .addTag => { draft with directive := { d with tags := d.tags ++ Action.tagsOf value } }
  | .archive =>
    let path := if value.isEmpty then none else some value
    { draft with directive := { d with archive := some ⟨path⟩ } }
  | .generateArchiveNumber =>
    { draft with
      numberRequested := true
      code := if value.isEmpty then draft.code else ArchiveNumber.codeOf? value }

/-- Takes an action into the draft, or notes what is wrong with it. -/
def Draft.step (ruleId : Option String) (draft : Draft) (a : Action) : Draft :=
  match a.problem? with
  | some problem =>
    let note : Diagnostic :=
      ⟨ruleId, .malformedAction, s!"{a.kind.word} not applied: {problem}"⟩
    { draft with notes := draft.notes ++ [note] }
  | none => draft.take a

/-- The days that numbers stand for when the receipt names none: the one that the caller gives, or
else the current one. -/
structure Occasion where
  asOf : Option Date
  today : Date

def Occasion.day (occasion : Occasion) : Date := occasion.asOf.getD occasion.today

def dateNote (ruleId : Option String) (shown : String) (occasion : Occasion) : Diagnostic :=
  let source := if occasion.asOf.isSome then "as_of" else "today"
  ⟨ruleId, .malformedAction,
    s!"GENERATE_ARCHIVE_NUMBER: DATE value {shown} is not a date; period taken from {source}"⟩

/-- The day of the receipt, with a note if its date cannot be read. -/
def receiptDay (settings : Settings) (ruleId : Option String) (receipt : Option Receipt)
    (occasion : Occasion) : Except Failure (Option Date × List Diagnostic) :=
  match receipt with
  | none => .ok (none, [])
  | some receipt =>
    (Field.date.contentIn settings receipt).map fun
      | some (.date d) => (some d, [])
      | some content => (none, [dateNote ruleId (Quoted.quote content.asText) occasion])
      | none => (none, [])

/-- The category code of a request: that of an action, of the category, or the default. -/
def Draft.requestCode (settings : Settings) (draft : Draft) : String :=
  let code := draft.code.or (draft.directive.category.map Category.archiveCode)
  match code with
  | some code => code
  | none => settings.defaultCode

/-- Adds the notes that the directive does not have yet. -/
def addNotes (known : List Diagnostic) (notes : List Diagnostic) : List Diagnostic :=
  notes.foldl (fun known note ↦ if known.contains note then known else known ++ [note]) known

/-- Folds actions into a directive, starting from another one if there is one. -/
def apply (settings : Settings) (ruleId : Option String) (receipt : Option Receipt)
    (base : Option Directive) (occasion : Occasion) (actions : List Action) :
    Except Failure Directive :=
  let start : Draft := ⟨base.getD { ruleId := ruleId }, false, none, []⟩
  let draft := actions.foldl (Draft.step ruleId) start
  let d := { draft.directive with tags := Ordered.ofList draft.directive.tags }
  if draft.numberRequested then
    (receiptDay settings ruleId receipt occasion).map fun (day, notes) ↦
      let period := ArchiveNumber.periodOf (day.getD occasion.day)
      let request : NumberKey := ⟨period, draft.requestCode settings⟩
      { d with
        numberRequest := some request
        diagnostics := addNotes d.diagnostics (draft.notes ++ notes) }
  else .ok { d with diagnostics := addNotes d.diagnostics draft.notes }

end ReceiptRules.Directive
