import ReceiptRules.Value.Text

/-!
# Writing JSON

Values are written on one line or with two spaces of indentation a level. Characters outside the
printable first 128 are written as they are or, on request, as escapes of UTF-16 units. Values of
kinds that JSON does not have are written as texts.
-/

namespace ReceiptRules.Json

open Text

structure Style where
  indented : Bool
  /-- Whether everything outside the printable first 128 characters is escaped. -/
  escapeAll : Bool

def Style.line : Style := ⟨false, false⟩

def Style.document : Style := ⟨true, false⟩

def Style.plainDocument : Style := ⟨true, true⟩

def unitEscape (n : Nat) : List Char := '\\' :: 'u' :: Quoted.hex 4 n

/-- Escapes of the UTF-16 units of a character. -/
def unitEscapes (c : Char) : List Char :=
  let n := c.toNat
  if n < 0x10000 then unitEscape n
  else
    unitEscape (0xd800 + (n - 0x10000) / 1024) ++ unitEscape (0xdc00 + (n - 0x10000) % 1024)

def escapeChar (all : Bool) (c : Char) : List Char :=
  if c == '"' then ['\\', '"']
  else if c == '\\' then ['\\', '\\']
  else if c == '\n' then ['\\', 'n']
  else if c == '\r' then ['\\', 'r']
  else if c == '\t' then ['\\', 't']
  else if c == '\x08' then ['\\', 'b']
  else if c == '\x0c' then ['\\', 'f']
  else if c.toNat < 0x20 || (all && 0x7f ≤ c.toNat) then unitEscapes c
  else [c]

def textChars (all : Bool) (s : String) : List Char :=
  '"' :: s.toList.flatMap (escapeChar all) ++ ['"']

def lineBreak (level : Nat) : List Char := '\n' :: List.replicate (2 * level) ' '

/-- Items between brackets, one a line where the style asks for it. -/
def bracketed (style : Style) (level : Nat) (opening closing : Char) (items : List (List Char)) :
    List Char :=
  if items.isEmpty then [opening, closing]
  else if style.indented then
    let inner := lineBreak (level + 1)
    opening :: inner ++ (',' :: inner).intercalate items ++ lineBreak level ++ [closing]
  else opening :: [',', ' '].intercalate items ++ [closing]

/-- The literals with which the reader names what no decimal writes, and else the shortest text. -/
def floatText : Binary64 → String
  | .infinite negative => if negative then "-Infinity" else "Infinity"
  | .undefined => "NaN"
  | x => x.text

mutual

def chars (style : Style) (level : Nat) : Value → List Char
  | .null => "null".toList
  | .bool b => if b then "true".toList else "false".toList
  | .int n => (Value.intText n).toList
  | .float x => (floatText x).toList
  | .list items => bracketed style level '[' ']' (itemChars style (level + 1) items)
  | .object entries => bracketed style level '\x7b' '\x7d' (entryChars style (level + 1) entries)
  | v => textChars style.escapeAll v.asText

def itemChars (style : Style) (level : Nat) : List Value → List (List Char)
  | [] => []
  | v :: rest => chars style level v :: itemChars style level rest

def entryChars (style : Style) (level : Nat) : List (String × Value) → List (List Char)
  | [] => []
  | (k, v) :: rest =>
    (textChars style.escapeAll k ++ ':' :: ' ' :: chars style level v) ::
      entryChars style level rest

end

/-- The value as JSON text. -/
def write (style : Style) (v : Value) : String := String.ofList (chars style 0 v)

end ReceiptRules.Json
