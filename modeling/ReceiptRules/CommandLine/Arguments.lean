import ReceiptRules.Text.Digit
import ReceiptRules.Text.Quoted
import ReceiptRules.Text.Search

/-!
# Command line arguments

Arguments are options, their values and at most one operand. Options start with two hyphens and may
be shortened as long as only one option is meant; a value follows its option or is attached to it by
an equals sign. Behind a lone pair of hyphens everything is an operand. All arguments are told apart
first, and then taken from left to right.
-/

namespace ReceiptRules.CommandLine

open Text

inductive OptionProblem where
  | expectsValue
  | ignoresValue (value : String)
  | badValue (kind value : String)
  | badChoice (value : String) (choices : List String)
deriving DecidableEq, Repr

inductive UsageError where
  | ambiguous (argument : String) (candidates : List String)
  | option (label : String) (problem : OptionProblem)
  | missingOperand (name : String)
  | unrecognized (arguments : List String)
  | needs (wish need : String)
deriving DecidableEq, Repr

def OptionProblem.message : OptionProblem → String
  | expectsValue => "expected one argument"
  | ignoresValue value => s!"ignored explicit argument {Quoted.quote value}"
  | badValue kind value => s!"invalid {kind} value: {Quoted.quote value}"
  | badChoice value choices =>
    let shown := ", ".intercalate (choices.map Quoted.quote)
    s!"invalid choice: {Quoted.quote value} (choose from {shown})"

def UsageError.message : UsageError → String
  | ambiguous argument candidates =>
    s!"ambiguous option: {argument} could match " ++ ", ".intercalate candidates
  | option label problem => s!"argument {label}: {problem.message}"
  | missingOperand name => s!"the following arguments are required: {name}"
  | unrecognized arguments => "unrecognized arguments: " ++ " ".intercalate arguments
  | needs wish need => s!"{wish} requires {need}"

/-- An option of a command. -/
structure OptionSpec where
  name : String
  takesValue : Bool := true
  problem? : String → Option OptionProblem := fun _ ↦ none
  /-- The value where none is given. -/
  fallback : Option String := none

/-- What a command can be given. Each command also has an option that asks for help. -/
structure Interface where
  program : String
  operand : Option String
  options : List OptionSpec

/-- An option whose value is one of some words. -/
def OptionSpec.choice (name : String) (choices : List String) : OptionSpec where
  name := name
  problem? value := if choices.contains value then none else some (.badChoice value choices)
  fallback := choices.head?

namespace Interface

def names (i : Interface) : List String := "-h" :: "--help" :: i.options.map OptionSpec.name

def find? (i : Interface) (name : String) : Option OptionSpec :=
  i.options.find? fun o ↦ o.name == name

/-- The line that tells what is wrong. -/
def complaint (i : Interface) (e : UsageError) : String :=
  s!"{i.program}: error: {e.message}"

end Interface

/-! ## Telling arguments apart -/

/-- A value in the same argument as its option, and whether an equals sign stands before it. -/
structure Attached where
  equals : Bool
  value : List Char

inductive Token where
  | word (s : String)
  | hyphens
  | option (name : String) (attached : Option Attached)
  | unknown (s : String)

/-- The parts before and behind the first equals sign. -/
def splitEquals (cs : List Char) : List Char × Option Attached :=
  match cs.dropWhile (· != '=') with
  | _ :: value => (cs.takeWhile (· != '='), some ⟨true, value⟩)
  | [] => (cs, none)

/-- The options that an argument may mean when it does not name one in full. -/
def candidates (names : List String) : List Char → List (String × Option Attached)
  | '-' :: '-' :: rest =>
    let (start, attached) := splitEquals ('-' :: '-' :: rest)
    (names.filter fun n ↦ start.isPrefixOf n.toList).map fun n ↦ (n, attached)
  | '-' :: c :: rest =>
    (names.filter fun n ↦ n.toList == ['-', c]).map fun n ↦ (n, some ⟨false, rest⟩)
  | _ => []

/-- Whether a text looks like a number below zero. -/
def looksNegative (cs : List Char) : Bool :=
  match cs with
  | '-' :: body =>
    let body := if body.getLast? == some '\n' then body.dropLast else body
    let whole := body.takeWhile Digit.isDigit
    match body.dropWhile Digit.isDigit with
    | [] => !whole.isEmpty
    | '.' :: places => !places.isEmpty && places.all Digit.isDigit
    | _ => false
  | _ => false

/-- What an argument is that starts with a hyphen and is longer. -/
def hyphenToken (names : List String) (argument : String) : Except UsageError Token :=
  let cs := argument.toList
  let (start, attached) := splitEquals cs
  if names.contains argument then .ok (.option argument none)
  else if attached.isSome && names.contains (String.ofList start) then
    .ok (.option (String.ofList start) attached)
  else match candidates names cs with
    | [(name, attached)] => .ok (.option name attached)
    | [] =>
      if looksNegative cs || cs.contains ' ' then .ok (.word argument) else .ok (.unknown argument)
    | several => .error (.ambiguous argument (several.map Prod.fst))

def token (names : List String) (argument : String) : Except UsageError Token :=
  match argument.toList with
  | '-' :: _ :: _ => hyphenToken names argument
  | _ => .ok (.word argument)

/-- The tokens of all arguments. -/
def tokens (names : List String) : List String → Except UsageError (List Token)
  | [] => .ok []
  | argument :: rest =>
    if argument = "--" then .ok (.hyphens :: rest.map .word)
    else do
      let first ← token names argument
      return first :: (← tokens names rest)

/-! ## Taking arguments -/

/-- The arguments taken so far. -/
structure Arguments where
  operand : Option String := none
  values : List (String × String) := []
  extras : List String := []

/-- Why no arguments come out: help was asked for, or they are wrong. -/
inductive Halt where
  | help
  | usage (error : UsageError)

def helpLabel : String := "-h/--help"

/-- What becomes of the short help option with something attached to it: more short options may
follow it directly. -/
def shortHelp (equals : Bool) : List Char → Halt
  | [] => .usage (.option helpLabel (.ignoresValue ""))
  | c :: rest =>
    if equals || c == '-' then
      .usage (.option helpLabel (.ignoresValue (String.ofList (c :: rest))))
    else if c == 'h' then
      match rest with
      | [] => .help
      | '=' :: rest => shortHelp true rest
      | rest => shortHelp false rest
    else .help

def helpHalt (name : String) : Option Attached → Halt
  | none => .help
  | some ⟨equals, value⟩ =>
    if name = "-h" then shortHelp equals value
    else .usage (.option helpLabel (.ignoresValue (String.ofList value)))

/-- Takes the value of an option. -/
def Arguments.give (a : Arguments) (o : OptionSpec) (value : String) : Except Halt Arguments :=
  match o.problem? value with
  | some problem => .error (.usage (.option o.name problem))
  | none => .ok { a with values := (o.name, value) :: a.values }

def Arguments.wantsOperand (a : Arguments) (i : Interface) : Bool :=
  i.operand.isSome && a.operand.isNone

def Arguments.refuse (a : Arguments) (argument : String) : Arguments :=
  { a with extras := a.extras ++ [argument] }

/-- What the token before was taken for. -/
inductive Previous where
  | operand
  | optionWithValue
  | other
deriving DecidableEq

/-- Takes an option; its value, unless it is attached, is the next token. -/
def Arguments.option (a : Arguments) (i : Interface) (name : String) (attached : Option Attached)
    (rest : List Token) : Except Halt (Arguments × Previous) :=
  match i.find? name with
  | none => .error (helpHalt name attached)
  | some o =>
    match o.takesValue, attached, rest with
    | true, some ⟨_, value⟩, _ => (a.give o (String.ofList value)).map fun a ↦ (a, .other)
    | true, none, .word value :: _ => (a.give o value).map fun a ↦ (a, .optionWithValue)
    | true, none, _ => .error (.usage (.option o.name .expectsValue))
    | false, some ⟨_, value⟩, _ =>
      .error (.usage (.option o.name (.ignoresValue (String.ofList value))))
    | false, none, _ => .ok ({ a with values := (o.name, "") :: a.values }, .other)

/-- Takes all tokens. Hyphens are dropped next to the operand. -/
def Arguments.takeAll (i : Interface) (a : Arguments) (previous : Previous) :
    List Token → Except Halt Arguments
  | [] => .ok a
  | t :: rest =>
    if previous = .optionWithValue then takeAll i a .other rest
    else match t with
      | .word s =>
        if a.wantsOperand i then takeAll i { a with operand := some s } .operand rest
        else takeAll i (a.refuse s) .other rest
      | .hyphens =>
        if previous = .operand ∨ (a.wantsOperand i ∧ !rest.isEmpty) then takeAll i a .other rest
        else takeAll i (a.refuse "--") .other rest
      | .unknown s => takeAll i (a.refuse s) .other rest
      | .option name attached => do
        let (a, previous) ← a.option i name attached rest
        takeAll i a previous rest

/-- The last value given for an option, or its fallback. -/
def Arguments.value? (a : Arguments) (o : OptionSpec) : Option String :=
  (a.values.lookup o.name).or o.fallback

def Arguments.has (a : Arguments) (o : OptionSpec) : Bool := (a.values.lookup o.name).isSome

/-- The first option that is not given and whose fallback is no good. -/
def Arguments.badFallback? (a : Arguments) (options : List OptionSpec) : Option UsageError :=
  options.findSome? fun o ↦
    if a.has o then none
    else (o.fallback.bind o.problem?).map fun problem ↦ .option o.name problem

/-- What is wrong with the arguments as a whole. -/
def Arguments.error? (a : Arguments) (i : Interface) : Option UsageError :=
  (a.badFallback? i.options).or <|
    (if a.operand.isNone then i.operand.map UsageError.missingOperand else none).or <|
      if a.extras.isEmpty then none else some (.unrecognized a.extras)

/-- Reads the arguments of a command. -/
def Interface.read (i : Interface) (arguments : List String) : Except Halt Arguments := do
  let tokens ← match tokens i.names arguments with
    | .ok tokens => pure tokens
    | .error e => throw (.usage e)
  let taken ← Arguments.takeAll i {} .other tokens
  match taken.error? i with
  | none => return taken
  | some e => throw (.usage e)

end ReceiptRules.CommandLine
