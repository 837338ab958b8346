import ReceiptRules.CommandLine.Arguments
import ReceiptRules.CommandLine.Files
import ReceiptRules.Date.Iso
import ReceiptRules.Receipt.Listing
import ReceiptRules.Report.Markdown
import ReceiptRules.Store.Document
import ReceiptRules.Store.SystemRules

/-!
# The classification command

Classifies the receipts of a file by the rules of a store file and reports what became of them. A
store file that is missing is filled with the system rules. Archive numbers that have been given out
are kept in a file, so that later runs go on behind them.
-/

namespace ReceiptRules.CommandLine.Classify

open ArchiveNumber Text

/-! ## Arguments -/

/-- Variables of the environment, by name. -/
abbrev Environment := List (String × String)

/-- The trimmed value of a variable, if there is something in it. -/
def variableIn? (env : Environment) (name : String) : Option String :=
  ((env.lookup name).map Blank.trim).filter fun s ↦ !s.isEmpty

def rules : OptionSpec := { name := "--rules" }

def config : OptionSpec := { name := "--config" }

def archiveNumbers : OptionSpec := { name := "--archive-numbers" }

def wholeProblem? (value : String) : Option OptionProblem :=
  match WholeNumber.read value with
  | .ok _ => none
  | .error _ => some (.badValue "int" value)

/-- The number of workers makes no difference to the answer. -/
def workers (env : Environment) : OptionSpec where
  name := "--workers"
  problem? := wholeProblem?
  fallback := (variableIn? env "CLASSIFY_MAX_WORKERS").or (some "1")

def dateProblem? (value : String) : Option OptionProblem :=
  if (Date.ofIso? value).isSome then none else some (.badValue "fromisoformat" value)

def asOf : OptionSpec := { name := "--as-of", problem? := dateProblem? }

def out : OptionSpec := { name := "--out" }

def format : OptionSpec := .choice "--format" ["json", "markdown"]

def verbose : OptionSpec := { name := "--verbose", takesValue := false }

def interface (env : Environment) : Interface where
  program := "run_classification"
  operand := some "receipts"
  options := [rules, config, archiveNumbers, workers env, asOf, out, format, verbose]

/-- What a run works on. Numbers are known from the file of numbers alone: a caller cannot name
further ones, and the number of workers is left out with the pool of threads. -/
structure Request where
  receipts : Path
  rules : Option Path
  config : Option Path
  /-- Where the archive numbers are kept that have been given out. -/
  numbers : Option Path
  asOf : Option Date

def numbersEnding : String := ".archive_numbers.json"

/-- Path of the numbers: as told, or else beside the rules. -/
def numbersPath (told rules : Option Path) : Except Failure (Option Path) :=
  match told, rules with
  | some p, _ => .ok (some p)
  | none, some r => (r.withEnding numbersEnding).map some
  | none, none => .ok none

def pathOf (env : Environment) (a : Arguments) (o : OptionSpec) (name : String) : Option Path :=
  ((a.value? o).or (variableIn? env name)).map Path.ofText

def request (env : Environment) (a : Arguments) : Except Failure Request := do
  let rulesPath := pathOf env a rules "CLASSIFY_RULES_PATH"
  let told := pathOf env a archiveNumbers "CLASSIFY_ARCHIVE_NUMBERS_PATH"
  return {
    receipts := Path.ofText (a.operand.getD "")
    rules := rulesPath
    config := pathOf env a config "CLASSIFY_CONFIG_PATH"
    numbers := ← numbersPath told rulesPath
    asOf := (a.value? asOf).bind Date.ofIso? }

/-! ## Reading -/

def readJson (files : Files) (p : Path) : Except Failure Value := do
  match Json.read (← files.read p) with
  | .ok v => return v
  | .error e => .error (.json e)

/-- The settings of a file; the usual ones if there is no file. -/
def readSettings (files : Files) (path : Option Path) : Except Failure Settings :=
  match path.filter files.isThere with
  | none => .ok {}
  | some p => do (Settings.ofDocument (← readJson files p)).toExcept

/-- The archive numbers of a file: a list, or an object that holds one. -/
def readNumbers (files : Files) (path : Option Path) : Except Failure (List String) :=
  match path.filter files.isThere with
  | none => .ok []
  | some p => do
    let v ← readJson files p
    let listed ← match v with
      | .object _ => v.entryOr "archive_numbers" (.list [])
      | v => .ok v
    return (← listed.items).map Value.asText

def numbersText (numbers : List String) : String :=
  Json.write .plainDocument
    (.object [("archive_numbers", .list ((Ordered.ofList numbers).map .text))])

/-! ## Running -/

/-- The files, and the number of identifiers drawn so far. -/
structure Place where
  files : Files
  drawn : Nat

/-- A new store with the system rules. -/
def seeded (settings : Settings) (now : Timestamp) (drawn : Nat) : Except Failure Desk :=
  let (added, desk) := SystemRules.registry.seed now ⟨.empty settings, drawn⟩
  added.map fun _ ↦ desk

/-- The store of a file. A new one is made, and written if there is a path for it, where there is no
file. -/
def openStore (settings : Settings) (now : Timestamp) (path : Option Path) (place : Place) :
    Except Failure (Store × Place) :=
  match path with
  | none => (seeded settings now place.drawn).map fun desk ↦
      (desk.store, { place with drawn := desk.drawn })
  | some p =>
    if place.files.isThere p then do
      return (← Store.ofSaved settings now (← place.files.read p), place)
    else do
      let desk ← seeded settings now place.drawn
      return (desk.store, ⟨← place.files.write p desk.store.saved, desk.drawn⟩)

/-- Archive numbers that a batch has given out. -/
def issued (report : Report) : List String :=
  (report.outcomes.filterMap fun o ↦ o.directive.bind Directive.archiveNumber).filter
    fun n ↦ !n.isEmpty

/-- A report with the numbers that had been given out before it. -/
def classify (settings : Settings) (store : Store) (now : Timestamp) (today : Date)
    (request : Request) (place : Place) : Except Failure (Report × List String) := do
  let known ← readNumbers place.files request.numbers
  let counters ← match Counters.ofNumbers known with
    | .ok counters => pure counters
    | .error e => .error (.longSerial e.digits)
  let receipts ← Receipt.ofListing (← readJson place.files request.receipts)
  let report ← (Batch.run settings ⟨request.asOf, today⟩ now (place.drawn + 1) store.enabledRules
    receipts (some counters)).1
  return (report, known)

/-- Writes down the numbers that have been given out so far. -/
def record (path : Option Path) (numbers : List String) (files : Files) : Except Failure Files :=
  match path with
  | none => .ok files
  | some p => files.write p (numbersText numbers)

/-- Classifies the receipts of a file. What has been written before a failure stays. -/
def run (now : Timestamp) (today : Date) (request : Request) (place : Place) :
    Except Failure Report × Place :=
  let opened := do
    let settings ← readSettings place.files request.config
    let (store, place) ← openStore settings now request.rules place
    return (settings, store, place)
  match opened with
  | .error e => (.error e, place)
  | .ok (settings, store, place) =>
    match classify settings store now today request place with
    | .error e => (.error e, place)
    | .ok (report, known) =>
      let place := { place with drawn := place.drawn + 1 }
      match record request.numbers (known ++ issued report) place.files with
      | .error e => (.error e, place)
      | .ok files => (.ok report, { place with files := files })

/-! ## The command -/

/-- How a command ends: with something printed, or with a reason why not. -/
inductive Ending where
  | printed (text : String)
  | help
  | usage (line : String)
  | failed (failure : Failure)

/-- Hands over the report, on the screen or in a file. -/
def deliver (env : Environment) (a : Arguments) (report : Report) (files : Files) :
    Ending × Files :=
  let path := (a.value? out).map Path.ofText
  let save (p : Path) (text : String) : Ending × Files :=
    match files.write p text with
    | .ok files => (.printed "", files)
    | .error e => (.failed e, files)
  let json := Json.write .document report.toDocument
  match a.value? format == some "markdown", path with
  | true, some p => save p report.markdown
  | true, none => (.usage ((interface env).complaint (.needs "--format markdown" "--out")), files)
  | false, some p => save p json
  | false, none => (.printed (json ++ "\n"), files)

/-- Runs the command on files. -/
def command (env : Environment) (now : Timestamp) (today : Date) (arguments : List String)
    (place : Place) : Ending × Place :=
  match (interface env).read arguments with
  | .error .help => (.help, place)
  | .error (.usage e) => (.usage ((interface env).complaint e), place)
  | .ok a =>
    match request env a with
    | .error e => (.failed e, place)
    | .ok request =>
      match run now today request place with
      | (.error e, place) => (.failed e, place)
      | (.ok report, place) =>
        let (ending, files) := deliver env a report place.files
        (ending, { place with files := files })

end ReceiptRules.CommandLine.Classify
