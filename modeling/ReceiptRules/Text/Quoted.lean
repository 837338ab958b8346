import ReceiptRules.Text.CharacterClass

/-!
# Quoted text and fresh identifiers

A text between quotes, with everything that would not show as itself written as an escape. Single
quotes are used unless the text holds one and holds no double quote.

Identifiers are drawn from a counter and written with 32 hexadecimal digits; those of batches have
hyphens after the eighth, twelfth, sixteenth and twentieth digit.
-/

namespace ReceiptRules.Text.Quoted

def hexDigit (d : Nat) : Char := if d < 10 then Char.ofNat (48 + d) else Char.ofNat (87 + d)

/-- The lowest `width` hexadecimal digits of a number, most significant first. -/
def hex : Nat → Nat → List Char
  | 0, _ => []
  | width + 1, n => hex width (n / 16) ++ [hexDigit (n % 16)]

def escape (quote c : Char) : List Char :=
  if c == quote || c == '\\' then ['\\', c]
  else if c == '\t' then ['\\', 't']
  else if c == '\n' then ['\\', 'n']
  else if c == '\r' then ['\\', 'r']
  else if Printable.isPrintable c then [c]
  else if c.toNat < 0x100 then '\\' :: 'x' :: hex 2 c.toNat
  else if c.toNat < 0x10000 then '\\' :: 'u' :: hex 4 c.toNat
  else '\\' :: 'U' :: hex 8 c.toNat

def quoteFor (cs : List Char) : Char :=
  if cs.contains '\'' && !cs.contains '"' then '"' else '\''

def quoteChars (cs : List Char) : List Char :=
  let quote := quoteFor cs
  quote :: cs.flatMap (escape quote) ++ [quote]

/-- The text as it is shown in messages. -/
def quote (s : String) : String := String.ofList (quoteChars s.toList)

end ReceiptRules.Text.Quoted

/-! ## Fresh identifiers -/

namespace ReceiptRules.Identity

open Text

def ruleId (n : Nat) : String := String.ofList (Quoted.hex 32 n)

def batchId (n : Nat) : String :=
  let digits := Quoted.hex 32 n
  let part (from_ length : Nat) := (digits.drop from_).take length
  String.ofList (['-'].intercalate [part 0 8, part 8 4, part 12 4, part 16 4, part 20 12])

end ReceiptRules.Identity
