import ReceiptRules.Text.Search
import ReceiptRules.Text.Case
import ReceiptRules.Text.Digit
import ReceiptRules.Text.CharacterClass

/-!
# Pattern trees

A pattern is a tree of single characters, sets, positions, sequences, alternatives, groups and
repetitions. Modes are settled when the tree is built, so each leaf carries its own. Characters are
kept as code points, since a pattern may name code points that no text holds.
-/

namespace ReceiptRules.Pattern

open Text

structure Mode where
  ignoreCase : Bool := false
  /-- Classes and case look at the first 128 characters only. -/
  ascii : Bool := false
  multiline : Bool := false
  /-- Whether the point also matches a line feed. -/
  dotAll : Bool := false
deriving DecidableEq, Repr

inductive Category where
  | digit | space | word
deriving DecidableEq, Repr

def Category.contains (ascii : Bool) (c : Char) : Category → Bool
  | digit => if ascii then c.isDigit else Digit.isDigit c
  | space => if ascii then Blank.isAsciiBlank c else Blank.isBlank c
  | word => if ascii then Word.isAsciiWord c else Word.isWord c

inductive SetItem where
  | code (n : Nat)
  | range (low high : Nat)
  | category (kind : Category) (negated : Bool)
deriving DecidableEq, Repr

inductive Anchor where
  /-- The start of the text, or of a line where lines count. -/
  | start
  /-- The end of the text or in front of a line feed that ends it, or the end of a line. -/
  | finish
  | textStart
  | textEnd
  | wordEdge (negated : Bool)
deriving DecidableEq, Repr

inductive Repetition where
  | greedy | lazy | possessive
deriving DecidableEq, Repr

/-- Least and greatest number of characters that a tree can match. -/
structure Width where
  least : Nat
  greatest : Nat
deriving DecidableEq, Repr

inductive Node where
  | empty
  | code (mode : Mode) (negated : Bool) (n : Nat)
  | any (dotAll : Bool)
  | set (mode : Mode) (negated : Bool) (items : List SetItem)
  | anchor (mode : Mode) (kind : Anchor)
  | seq (first second : Node)
  | alt (first second : Node)
  | group (number : Nat) (body : Node)
  | backref (mode : Mode) (number : Nat) (width : Width)
  | choice (number : Nat) (yes no : Node)
  | look (behind negated : Bool) (body : Node)
  | atomic (body : Node)
  | repeated (kind : Repetition) (least : Nat) (greatest : Option Nat) (body : Node)
deriving DecidableEq, Repr

namespace Width

/-- Above every width that a text can have. -/
def unbounded : Nat := Nat.pow 2 64

def zero : Width := ⟨0, 0⟩

def one : Width := ⟨1, 1⟩

def capped (w : Width) : Width := ⟨min w.least unbounded, min w.greatest unbounded⟩

def add (a b : Width) : Width := capped ⟨a.least + b.least, a.greatest + b.greatest⟩

def join (a b : Width) : Width := ⟨min a.least b.least, max a.greatest b.greatest⟩

def times (w : Width) (least : Nat) (greatest : Option Nat) : Width :=
  capped ⟨w.least * least, match greatest with
    | some n => w.greatest * n
    | none => if w.greatest == 0 then 0 else unbounded⟩

def isFixed (w : Width) : Bool := w.least == w.greatest

end Width

namespace Node

def width : Node → Width
  | empty | anchor _ _ | look _ _ _ => .zero
  | code _ _ _ | any _ | set _ _ _ => .one
  | seq a b => (width a).add (width b)
  | alt a b | choice _ a b => (width a).join (width b)
  | group _ body | atomic body => width body
  | backref _ _ w => w
  | repeated _ least greatest body => (width body).times least greatest

/-- The items one after the other. -/
def sequence (items : List Node) : Node := items.foldr seq empty

/-- The first of the alternatives that leads to a match. -/
def alternatives : List Node → Node
  | [] => empty
  | [n] => n
  | n :: rest => alt n (alternatives rest)

end Node

end ReceiptRules.Pattern
