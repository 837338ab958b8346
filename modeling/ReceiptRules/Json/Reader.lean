import ReceiptRules.Value
import ReceiptRules.Text.Digit

/-!
# Reading JSON

The reader takes a text as a list of characters and hands on what is left of it, so a place in the
text is known by the number of characters behind it. Not-a-number and the infinities are admitted as
bare words. A lone half of a surrogate pair becomes the replacement character.
-/

namespace ReceiptRules.Json

open Text

inductive Fault where
  | expectingValue | expectingName | expectingColon | expectingComma | unterminated
  | controlCharacter | badEscape | badUnicodeEscape | extraData | byteOrderMark
deriving DecidableEq, Repr

def Fault.text : Fault → String
  | expectingValue => "Expecting value"
  | expectingName => "Expecting property name enclosed in double quotes"
  | expectingColon => "Expecting ':' delimiter"
  | expectingComma => "Expecting ',' delimiter"
  | unterminated => "Unterminated string starting at"
  | controlCharacter => "Invalid control character at"
  | badEscape => "Invalid \\escape"
  | badUnicodeEscape => "Invalid \\uXXXX escape"
  | extraData => "Extra data"
  | byteOrderMark => "Unexpected UTF-8 BOM (decode using utf-8-sig)"

inductive Error where
  | malformed (fault : Fault) (line column place : Nat)
  | tooManyDigits (digits : Nat)
deriving DecidableEq, Repr

def Error.message : Error → String
  | malformed fault line column place =>
    s!"{fault.text}: line {line} column {column} (char {place})"
  | tooManyDigits digits => WholeNumber.tooLongToRead digits

/-- Why reading stopped: a fault with the number of characters from there on, or a number that is
too long. -/
inductive Stop where
  | fault (fault : Fault) (left : Nat)
  | longNumber (digits : Nat)

def isSpace (c : Char) : Bool := c == ' ' || c == '\t' || c == '\n' || c == '\r'

def skipSpace (cs : List Char) : List Char := cs.dropWhile isSpace

def stopAt {α : Type} (fault : Fault) (cs : List Char) : Except Stop α :=
  .error (.fault fault cs.length)

/-! ## Texts -/

def hexValue? (c : Char) : Option Nat :=
  if c.isDigit then some (c.toNat - 48)
  else if 'a' ≤ c && c ≤ 'f' then some (c.toNat - 87)
  else if 'A' ≤ c && c ≤ 'F' then some (c.toNat - 55)
  else none

/-- The number that four hexadecimal digits write. -/
def unit? (a b c d : Char) : Option Nat := do
  return 4096 * (← hexValue? a) + 256 * (← hexValue? b) + 16 * (← hexValue? c) + (← hexValue? d)

def simpleEscape? : Char → Option Char
  | '"' => some '"'
  | '\\' => some '\\'
  | '/' => some '/'
  | 'b' => some '\x08'
  | 'f' => some '\x0c'
  | 'n' => some '\n'
  | 'r' => some '\r'
  | 't' => some '\t'
  | _ => none

def isHighHalf (n : Nat) : Bool := 0xd800 ≤ n && n < 0xdc00

def isLowHalf (n : Nat) : Bool := 0xdc00 ≤ n && n < 0xe000

def ofUnit (n : Nat) : Char := if 0xd800 ≤ n && n < 0xe000 then '\ufffd' else Char.ofNat n

def joinHalves (high low : Nat) : Char :=
  Char.ofNat (0x10000 + 1024 * (high - 0xd800) + (low - 0xdc00))

/-- Puts a character in front of what was read. -/
def prepend (c : Char) (read : Except Stop (List Char × List Char)) :
    Except Stop (List Char × List Char) :=
  read.map fun (cs, rest) ↦ (c :: cs, rest)

/-- The low half of a surrogate pair, written as an escape of four digits. -/
def lowHalf? (a b c d : Char) : Option Nat := (unit? a b c d).filter isLowHalf

/-- The rest of a text behind its opening quote. The first argument is the number of characters from
the opening quote on. -/
def textBody (opening : Nat) : List Char → Except Stop (List Char × List Char)
  | [] => .error (.fault .unterminated opening)
  | '"' :: rest => .ok ([], rest)
  | '\\' :: 'u' :: a :: b :: c :: d :: '\\' :: 'u' :: e :: f :: g :: h :: next :: rest =>
    match unit? a b c d, lowHalf? e f g h with
    | none, _ => .error (.fault .badUnicodeEscape (rest.length + 12))
    | some high, some low =>
      if isHighHalf high then prepend (joinHalves high low) (textBody opening (next :: rest))
      else
        prepend (ofUnit high) (textBody opening ('\\' :: 'u' :: e :: f :: g :: h :: next :: rest))
    | some n, none =>
      prepend (ofUnit n) (textBody opening ('\\' :: 'u' :: e :: f :: g :: h :: next :: rest))
  | '\\' :: 'u' :: a :: b :: c :: d :: next :: rest =>
    match unit? a b c d with
    | none => .error (.fault .badUnicodeEscape (rest.length + 6))
    | some n => prepend (ofUnit n) (textBody opening (next :: rest))
  | '\\' :: 'u' :: rest => .error (.fault .badUnicodeEscape (rest.length + 1))
  | '\\' :: e :: rest =>
    match simpleEscape? e with
    | none => .error (.fault .badEscape (rest.length + 2))
    | some c => prepend c (textBody opening rest)
  | '\\' :: [] => .error (.fault .unterminated opening)
  | c :: rest =>
    if c.toNat < 0x20 then .error (.fault .controlCharacter (rest.length + 1))
    else prepend c (textBody opening rest)
termination_by cs => cs.length

/-! ## Numbers -/

/-- The fraction at the start of a text: a point and digits. -/
def fractionPart : List Char → List Char × List Char
  | '.' :: rest =>
    let digits := rest.takeWhile Char.isDigit
    if digits.isEmpty then ([], '.' :: rest) else ('.' :: digits, rest.dropWhile Char.isDigit)
  | rest => ([], rest)

def exponentSign : List Char → List Char × List Char
  | '+' :: rest => (['+'], rest)
  | '-' :: rest => (['-'], rest)
  | rest => ([], rest)

/-- The exponent at the start of a text: the letter e, an optional sign and digits. -/
def exponentPart : List Char → List Char × List Char
  | c :: rest =>
    if c == 'e' || c == 'E' then
      let (sign, tail) := exponentSign rest
      let digits := tail.takeWhile Char.isDigit
      if digits.isEmpty then ([], c :: rest)
      else (c :: sign ++ digits, tail.dropWhile Char.isDigit)
    else ([], c :: rest)
  | [] => ([], [])

/-- Whole digits of a number: a single zero, or digits that start with another one. -/
def wholePart : List Char → Option (List Char × List Char)
  | '0' :: rest => some (['0'], rest)
  | c :: rest =>
    if c.isDigit then some (c :: rest.takeWhile Char.isDigit, rest.dropWhile Char.isDigit)
    else none
  | [] => none

def ofDigits (negative : Bool) (whole fraction power : List Char) : Except Stop Value :=
  if fraction.isEmpty && power.isEmpty then
    if whole.length > WholeNumber.digitLimit then .error (.longNumber whole.length)
    else
      let n : Int := Digit.number (Decimal.digitValues whole)
      .ok (.int (if negative then -n else n))
  else
    match Decimal.unsigned? negative (whole ++ fraction ++ power) with
    | some d => .ok (.float (Binary64.ofDecimal d))
    | none =>
      let vanishes := (whole ++ fraction).all (fun c ↦ c == '0' || c == '.') || power.contains '-'
      .ok (.float (if vanishes then .finite negative 0 Binary64.leastExponent
        else .infinite negative))

def number? (cs : List Char) : Option (Except Stop (Value × List Char)) :=
  let (negative, body) := match cs with
    | '-' :: rest => (true, rest)
    | rest => (false, rest)
  (wholePart body).map fun (whole, rest) ↦
    let (fraction, rest) := fractionPart rest
    let (power, rest) := exponentPart rest
    (ofDigits negative whole fraction power).map fun v ↦ (v, rest)

/-! ## Values -/

def words : List (String × Value) := [
  ("null", .null), ("true", .bool true), ("false", .bool false), ("NaN", .float .undefined),
  ("Infinity", .float (.infinite false)), ("-Infinity", .float (.infinite true))]

/-- A bare word at the start of a text. -/
def word? (cs : List Char) : Option (Value × List Char) :=
  (words.find? fun (w, _) ↦ w.toList.isPrefixOf cs).map fun (w, v) ↦ (v, cs.drop w.length)

mutual

/-- A value at the start of a text. The first argument bounds the depth and the number of items; the
length of the text is enough. -/
def value : Nat → List Char → Except Stop (Value × List Char)
  | 0, cs => stopAt .expectingValue cs
  | _ + 1, [] => stopAt .expectingValue []
  | bound + 1, c :: rest =>
    if c == '"' then do
      let (s, rest) ← textBody (rest.length + 1) rest
      return (.text (String.ofList s), rest)
    else if c == '[' then
      match skipSpace rest with
      | ']' :: rest => .ok (.list [], rest)
      | rest => do
        let (items, rest) ← elements bound rest
        return (.list items, rest)
    else if c == '\x7b' then
      match skipSpace rest with
      | '\x7d' :: rest => .ok (.object [], rest)
      | rest => do
        let (entries, rest) ← members bound rest
        return (.object (Value.distinct entries), rest)
    else
      match word? (c :: rest) with
      | some (v, rest) => .ok (v, rest)
      | none => (number? (c :: rest)).getD (stopAt .expectingValue (c :: rest))

/-- Items of a list up to its closing bracket. -/
def elements : Nat → List Char → Except Stop (List Value × List Char)
  | 0, cs => stopAt .expectingValue cs
  | bound + 1, cs => do
    let (v, rest) ← value bound cs
    match skipSpace rest with
    | ']' :: rest => return ([v], rest)
    | ',' :: rest =>
      let (vs, rest) ← elements bound (skipSpace rest)
      return (v :: vs, rest)
    | rest => stopAt .expectingComma rest

/-- Entries of an object up to its closing brace. -/
def members : Nat → List Char → Except Stop (List (String × Value) × List Char)
  | 0, cs => stopAt .expectingName cs
  | bound + 1, cs =>
    match cs with
    | '"' :: rest => do
      let (key, rest) ← textBody (rest.length + 1) rest
      match skipSpace rest with
      | ':' :: rest =>
        let (v, rest) ← value bound (skipSpace rest)
        match skipSpace rest with
        | '\x7d' :: rest => return ([(String.ofList key, v)], rest)
        | ',' :: rest =>
          let (entries, rest) ← members bound (skipSpace rest)
          return ((String.ofList key, v) :: entries, rest)
        | rest => stopAt .expectingComma rest
      | rest => stopAt .expectingColon rest
    | cs => stopAt .expectingName cs

end

/-- Line, column and index of a place, each line feed starting a new line. -/
def located (cs : List Char) (fault : Fault) (left : Nat) : Error :=
  let before := cs.take (cs.length - left)
  let column := (before.reverse.takeWhile (· != '\n')).length + 1
  .malformed fault (before.count '\n' + 1) column before.length

def readAll (cs : List Char) : Except Stop Value := do
  if cs.head? == some '\ufeff' then stopAt .byteOrderMark cs
  let (v, rest) ← value (cs.length + 1) (skipSpace cs)
  let rest := skipSpace rest
  if rest.isEmpty then return v else stopAt .extraData rest

/-- Reads a whole text as one value. -/
def read (s : String) : Except Error Value :=
  match readAll s.toList with
  | .ok v => .ok v
  | .error (.fault fault left) => .error (located s.toList fault left)
  | .error (.longNumber digits) => .error (.tooManyDigits digits)

end ReceiptRules.Json
