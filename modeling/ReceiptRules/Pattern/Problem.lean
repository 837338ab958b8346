import ReceiptRules.Text.Quoted
import ReceiptRules.Text.Digit

/-!
# Problems of patterns

What can be wrong with the text of a pattern. A malformed pattern has a cause and, as a rule, a
position. A number of repetitions that is too large, flags that contradict one another and numbers
of too many digits are problems of their own kind: they are not reported as malformed patterns.
-/

namespace ReceiptRules.Pattern

open Text

inductive Cause where
  | lonelyBackslash
  | unterminatedSet
  | badRange (low high : String)
  | nothingToRepeat
  | multipleRepeat
  | repeatBoundsCrossed
  | badEscape (escape : String)
  | incompleteEscape (escape : String)
  | octalTooLarge (escape : String)
  | missingBrace
  | missingName (what : String)
  | unterminatedName (terminator : String)
  | unknownCharacterName (name : String)
  | badGroupName (name : String)
  | unknownGroupName (name : String)
  | repeatedGroupName (name : String) (group earlier : Nat)
  | badGroupNumber
  | invalidGroupReference (group : Nat)
  | openGroupReference
  | lookBehindGroupReference
  | unexpectedEnd
  | unknownExtension (text : String)
  | unterminatedComment
  | unterminatedGroup
  | unbalancedParenthesis
  | tooManyBranches
  | flagsNotAtStart
  | unknownFlag
  | missingFlagEnd
  | missingFlag
  | missingColon
  | localeFlag
  | incompatibleFlags
  | globalFlagOn
  | globalFlagOff
  | typeFlagOff
  | flagOnAndOff
  | variableLookBehind
  | longLookBehind
  | templateRepeat (kind : String)
deriving DecidableEq, Repr

def Cause.text : Cause → String
  | lonelyBackslash => "bad escape (end of pattern)"
  | unterminatedSet => "unterminated character set"
  | badRange low high => s!"bad character range {low}-{high}"
  | nothingToRepeat => "nothing to repeat"
  | multipleRepeat => "multiple repeat"
  | repeatBoundsCrossed => "min repeat greater than max repeat"
  | badEscape escape => s!"bad escape {escape}"
  | incompleteEscape escape => s!"incomplete escape {escape}"
  | octalTooLarge escape => s!"octal escape value {escape} outside of range 0-0o377"
  | missingBrace => "missing \x7b"
  | missingName what => s!"missing {what}"
  | unterminatedName terminator => s!"missing {terminator}, unterminated name"
  | unknownCharacterName name => s!"undefined character name {Quoted.quote name}"
  | badGroupName name => s!"bad character in group name {Quoted.quote name}"
  | unknownGroupName name => s!"unknown group name {Quoted.quote name}"
  | repeatedGroupName name group earlier =>
    s!"redefinition of group name {Quoted.quote name} as group {group}; was group {earlier}"
  | badGroupNumber => "bad group number"
  | invalidGroupReference group => s!"invalid group reference {group}"
  | openGroupReference => "cannot refer to an open group"
  | lookBehindGroupReference =>
    "cannot refer to group defined in the same lookbehind subpattern"
  | unexpectedEnd => "unexpected end of pattern"
  | unknownExtension text => s!"unknown extension ?{text}"
  | unterminatedComment => "missing ), unterminated comment"
  | unterminatedGroup => "missing ), unterminated subpattern"
  | unbalancedParenthesis => "unbalanced parenthesis"
  | tooManyBranches => "conditional backref with more than two branches"
  | flagsNotAtStart => "global flags not at the start of the expression"
  | unknownFlag => "unknown flag"
  | missingFlagEnd => "missing -, : or )"
  | missingFlag => "missing flag"
  | missingColon => "missing :"
  | localeFlag => "bad inline flags: cannot use 'L' flag with a str pattern"
  | incompatibleFlags => "bad inline flags: flags 'a', 'u' and 'L' are incompatible"
  | globalFlagOn => "bad inline flags: cannot turn on global flag"
  | globalFlagOff => "bad inline flags: cannot turn off global flag"
  | typeFlagOff => "bad inline flags: cannot turn off flags 'a', 'u' and 'L'"
  | flagOnAndOff => "bad inline flags: flag turned on and off"
  | variableLookBehind => "look-behind requires fixed-width pattern"
  | longLookBehind => "looks too much behind"
  | templateRepeat kind => s!"internal: unsupported template operator {kind}"

inductive Problem where
  | malformed (cause : Cause) (position : Option Nat)
  | tooManyRepetitions
  | contradictoryFlags
  | tooManyDigits (digits : Nat)
deriving DecidableEq, Repr

/-- Line and column of a position, given in brackets when the pattern has several lines. -/
def lineAndColumn (pattern : List Char) (position : Nat) : String :=
  if pattern.contains '\n' then
    let before := pattern.take position
    let column := (before.reverse.takeWhile (· != '\n')).length + 1
    let line := before.count '\n' + 1
    s!" (line {line}, column {column})"
  else ""

def Problem.message (pattern : String) : Problem → String
  | malformed cause none => cause.text
  | malformed cause (some position) =>
    s!"{cause.text} at position {position}" ++ lineAndColumn pattern.toList position
  | tooManyRepetitions => "the repetition number is too large"
  | contradictoryFlags => "ASCII and UNICODE flags are incompatible"
  | tooManyDigits digits => WholeNumber.tooLongToRead digits

end ReceiptRules.Pattern
