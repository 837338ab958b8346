import ReceiptRules.Pattern.Matcher
import ReceiptRules.Pattern.Reader

/-!
# Patterns

A pattern is read from its text, checked, and then looked for in other texts. A look-behind has to
match texts of one length only.

Neither the depth of a pattern nor the work of matching is bounded here. What an interpreter refuses
for want of stack or memory is not modelled, so statements on when a check or a classification stops do
not speak of such limits.
-/

namespace ReceiptRules

structure Pattern where
  node : Pattern.Node

namespace Pattern

def Repetition.label : Repetition → String
  | greedy => "MAX_REPEAT"
  | lazy => "MIN_REPEAT"
  | possessive => "POSSESSIVE_REPEAT"

/-- The greatest length that a look-behind may have. -/
def greatestLookBehind : Nat := 4294967295

/-- The first fault of a tree that its text does not show: a look-behind without a fixed width, or a
repetition in a template. -/
def Node.fault? (template : Bool) : Node → Option Cause
  | empty | code _ _ _ | any _ | set _ _ _ | anchor _ _ | backref _ _ _ => none
  | seq a b | alt a b | choice _ a b => (fault? template a).or (fault? template b)
  | group _ body | atomic body => fault? template body
  | look behind _ body =>
    if behind && body.width.least > greatestLookBehind then some .longLookBehind
    else if behind && !body.width.isFixed then some .variableLookBehind
    else fault? template body
  | repeated kind _ _ body =>
    if template then some (.templateRepeat kind.label) else fault? template body

/-- Reads and checks a pattern. -/
def ofText (s : String) : Except Problem Pattern :=
  match Reader.read s.toList with
  | .error problem => .error problem
  | .ok (node, flags) =>
    match node.fault? flags.template with
    | some cause => .error (.malformed cause none)
    | none => .ok ⟨node⟩

/-- Whether the pattern matches somewhere in the text. -/
def occursIn (p : Pattern) (text : String) : Bool := (search p.node text.toList).isSome

end Pattern

end ReceiptRules
