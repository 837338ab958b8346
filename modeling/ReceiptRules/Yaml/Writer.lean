import ReceiptRules.Value.Text

/-!
# Writing YAML

Objects and lists are written in block style, a list in an object at the depth of its key. Texts are
written plain where nothing in them could be taken for something else, and in single quotes
otherwise; a text that has run over the line width goes on behind the next single space on a line of
its own.
-/

namespace ReceiptRules.Yaml

/-- A text is broken at the first single space behind this column. -/
def lineWidth : Nat := 80

/-! ## Texts -/

/-- Words that would be read as something else than a text. -/
def reservedWords : List String := ["", "~", "null", "true", "false", "yes", "no", "on", "off"]

def isReserved (cs : List Char) : Bool :=
  reservedWords.contains (String.ofList (cs.map Char.toLower))

/-- Characters that a plain text must not begin with. -/
def leadingMarks : List Char := "-?:,[]\x7b\x7d#&*!|>'\x22%@\x60 =<.+0123456789".toList

/-- Whether a text can be written without quotes. -/
def isPlain (cs : List Char) : Bool :=
  !isReserved cs && !(cs.head?.any leadingMarks.contains) && cs.getLast? != some ' ' &&
    cs.all fun c ↦ c != ':' && c != '#' && 0x20 ≤ c.toNat && c.toNat != 0x7f

/-- Breaks a text into lines; the first one starts at a column, the others at an indentation. -/
def fold (indent : Nat) : (column : Nat) → (line : List Char) → List Char → List (List Char)
  | _, line, [] => [line]
  | column, line, ' ' :: c :: rest =>
    if lineWidth < column ∧ c ≠ ' ' ∧ line.getLast? ≠ some ' ' then
      line :: fold indent indent [] (c :: rest)
    else fold indent (column + 1) (line ++ [' ']) (c :: rest)
  | column, line, c :: rest => fold indent (column + 1) (line ++ [c]) rest

def quoted (cs : List Char) : List Char :=
  '\x27' :: cs.flatMap (fun c ↦ if c == '\x27' then ['\x27', '\x27'] else [c]) ++ ['\x27']

/-! ## Values -/

/-- The text of a value that has no parts. -/
def scalarChars : Value → List Char
  | .null => "null".toList
  | .bool b => if b then "true".toList else "false".toList
  | .int n => (Value.intText n).toList
  | .list _ => ['[', ']']
  | .object _ => ['\x7b', '\x7d']
  | v =>
    let cs := v.asText.toList
    if isPlain cs then cs else quoted cs

/-- The lines of a value without parts behind a name; all but the first are indented by two. -/
def valueLines (column : Nat) (name : List Char) (v : Value) : List (List Char) :=
  match fold (column + 2) (column + name.length) [] (scalarChars v) with
  | [] => []
  | first :: others => (name ++ first) :: others.map fun line ↦ ' ' :: ' ' :: line

/-- Puts a text in front of the first line and as many blanks in front of the others. -/
def hang (mark : List Char) : List (List Char) → List (List Char)
  | [] => []
  | first :: others => (mark ++ first) :: others.map fun line ↦ mark.map (fun _ ↦ ' ') ++ line

mutual

/-- The lines of a value that starts at a column. -/
def lines (column : Nat) : Value → List (List Char)
  | .list (v :: items) => itemLines column (v :: items)
  | .object (entry :: entries) => entryLines column (entry :: entries)
  | v => fold column column [] (scalarChars v)

def itemLines (column : Nat) : List Value → List (List Char)
  | [] => []
  | v :: rest => hang ['-', ' '] (lines (column + 2) v) ++ itemLines column rest

def entryLines (column : Nat) : List (String × Value) → List (List Char)
  | [] => []
  | (key, v) :: rest =>
    let name := key.toList ++ [':']
    (match v with
      | .list (x :: items) => name :: itemLines column (x :: items)
      | .object (entry :: entries) =>
        name :: (entryLines (column + 2) (entry :: entries)).map fun line ↦ ' ' :: ' ' :: line
      | v => valueLines column (name ++ [' ']) v) ++
      entryLines column rest

end

/-- The value as a YAML document. -/
def write (v : Value) : String :=
  String.ofList ((lines 0 v).flatMap fun line ↦ line ++ ['\n'])

end ReceiptRules.Yaml
