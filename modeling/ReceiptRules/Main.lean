import ReceiptRules.CommandLine.Catalog
import ReceiptRules.CommandLine.Classify
import Std.Time.DateTime.Timestamp

/-!
# Program

Runs the commands on files. The classification command looks only at the files that its arguments or
the environment name and at what is on the way to them, and writes those that it has changed. A first
argument `catalog` prints the catalog instead.
-/

namespace ReceiptRules.Program

open CommandLine

/-- Variables that the classification command looks at. -/
def variableNames : List String := [
  "CLASSIFY_RULES_PATH", "CLASSIFY_CONFIG_PATH", "CLASSIFY_ARCHIVE_NUMBERS_PATH",
  "CLASSIFY_MAX_WORKERS"]

def environment : IO Classify.Environment :=
  variableNames.filterMapM fun name ↦ do
    return (← IO.getEnv name).map fun value ↦ (name, value)

/-- Paths that a command may read or write. -/
def named (env : Classify.Environment) (arguments : List String) : List Path :=
  match (Classify.interface env).read arguments with
  | .error _ => []
  | .ok a =>
    let out := (a.value? Classify.out).map Path.ofText
    match Classify.request env a with
    | .error _ => []
    | .ok r => r.receipts :: [r.rules, r.config, r.numbers, out].filterMap id

/-- Adds what is at a path. Directories and paths behind files both refuse the reading as one of the
wrong kind. -/
def lookAt (files : Files) (p : Path) : IO Files := do
  try
    let text ← IO.FS.readFile p.text
    return { files with entries := (p, text) :: files.entries }
  catch
    | .inappropriateType .. =>
      if files.runsThroughFile p then return files
      return { files with directories := p :: files.directories }
    | _ => return files

/-- The files and directories at the paths and on the way to them. -/
def load (paths : List Path) : IO Files :=
  let places := paths.flatMap fun p ↦
    (List.range (p.parts.length + 1)).map fun n ↦ { p with parts := p.parts.take n }
  places.foldlM lookAt { entries := [] }

def now : IO Timestamp := do
  let seconds := (← Std.Time.Timestamp.now).toSecondsSinceUnixEpoch.val
  match Timestamp.ofUnix? seconds (Timestamp.microsecondOf 0) with
  | some t => return t
  | none => throw (IO.userError "the clock is out of range")

/-- A number to start fresh identifiers from. -/
def firstIdentifier : IO Nat := do
  let bytes ← IO.getRandomBytes 15
  return bytes.foldl (fun n b ↦ 256 * n + b.toNat) 0

def classify (arguments : List String) : IO UInt32 := do
  let env ← environment
  let files ← load (named env arguments)
  let moment ← now
  let (ending, place) :=
    Classify.command env moment moment.date arguments ⟨files, ← firstIdentifier⟩
  for (p, text) in place.files.changedSince files do
    IO.FS.writeFile p.text text
  match ending with
  | .printed text => IO.print text; return 0
  | .help => return 0
  | .usage line => IO.eprintln line; return 2
  | .failed failure => IO.eprintln failure.message; return 1

def catalog (arguments : List String) : IO UInt32 :=
  match Catalog.run arguments with
  | .ok text => do IO.print text; return 0
  | .error .help => return 0
  | .error (.usage e) => do IO.eprintln (Catalog.interface.complaint e); return 2

end ReceiptRules.Program

def main (arguments : List String) : IO UInt32 :=
  match arguments with
  | "catalog" :: rest => ReceiptRules.Program.catalog rest
  | _ => ReceiptRules.Program.classify arguments
