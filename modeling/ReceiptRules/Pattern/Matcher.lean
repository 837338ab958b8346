import ReceiptRules.Pattern.Node

/-!
# Matching patterns

A match is looked for by backtracking: a tree tries its ways in order, each followed by what comes
after the tree, and the first way that leads through is taken. A spot is a place in the text
together with the groups marked so far. A repetition goes on after a round that matched no
character at most once from the same place, so every repetition ends.
-/

namespace ReceiptRules.Pattern

open Text

/-- A place in the text: what lies before it, last character first, what lies behind it, and the
places where groups were opened (even marks) and closed (odd marks) last. -/
structure Spot where
  before : List Char
  after : List Char
  position : Nat
  marks : List (Nat × Nat)

namespace Spot

def start (text : List Char) : Spot := ⟨[], text, 0, []⟩

/-- Goes past one character. -/
def step? (s : Spot) : Option (Char × Spot) :=
  match s.after with
  | [] => none
  | c :: rest => some (c, ⟨c :: s.before, rest, s.position + 1, s.marks⟩)

/-- Goes back by a number of characters. -/
def back? : Nat → Spot → Option Spot
  | 0, s => some s
  | n + 1, s =>
    match s.before with
    | [] => none
    | c :: rest => back? n ⟨rest, c :: s.after, s.position - 1, s.marks⟩

def mark (index : Nat) (s : Spot) : Spot :=
  { s with marks := (index, s.position) :: s.marks.filter fun (i, _) ↦ i != index }

/-- Where a group starts and ends, if it has matched. -/
def span? (s : Spot) (group : Nat) : Option (Nat × Nat) := do
  let opened ← s.marks.lookup (2 * group)
  let closed ← s.marks.lookup (2 * group + 1)
  if closed < opened then none else return (opened, closed)

/-- The characters between two places. -/
def slice (s : Spot) (first last : Nat) : List Char :=
  ((s.before.reverse ++ s.after).drop first).take (last - first)

end Spot

/-! ## Single characters -/

def codeMatches (mode : Mode) (n : Nat) (c : Char) : Bool :=
  c.toNat == n ||
    (mode.ignoreCase && n.isValidChar &&
      if mode.ascii then Case.sameAscii (Char.ofNat n) c
      else Case.isCased (Char.ofNat n) && Case.same (Char.ofNat n) c)

def inRange (low high : Nat) (c : Char) : Bool := low ≤ c.toNat && c.toNat ≤ high

/-- Code points from here on are compared without their case variants. -/
def caseTableEnd : Nat := 0x10000

/-- Whether a set member admits a character whose case is ignored; the small letter is given. -/
def SetItem.admitsSmall (ascii : Bool) (small : Char) : SetItem → Bool
  | code n =>
    let variants := if ascii then [small, small.toUpper] else Case.variants small
    small.toNat == n || (n < caseTableEnd && variants.any fun v ↦ v.toNat == n)
  | range low high =>
    let variants := if ascii then [small, small.toUpper] else Case.variants small
    (variants.any fun v ↦ inRange low high v && v.toNat < caseTableEnd) ||
      (high ≥ caseTableEnd && (inRange low high small || inRange low high (Case.upper small)))
  | category kind negated => kind.contains ascii small != negated

def SetItem.admits (ascii : Bool) (c : Char) : SetItem → Bool
  | code n => c.toNat == n
  | range low high => inRange low high c
  | category kind negated => kind.contains ascii c != negated

def setMatches (mode : Mode) (items : List SetItem) (c : Char) : Bool :=
  if mode.ignoreCase then
    let small := if mode.ascii then c.toLower else Case.lower c
    items.any (SetItem.admitsSmall mode.ascii small)
  else items.any (SetItem.admits mode.ascii c)

/-! ## Positions -/

def isWordAt (ascii : Bool) : Option Char → Bool
  | some c => Category.word.contains ascii c
  | none => false

def Anchor.holds (mode : Mode) (s : Spot) : Anchor → Bool
  | start => s.before.isEmpty || (mode.multiline && s.before.head? == some '\n')
  | finish => s.after.isEmpty || s.after == ['\n'] || (mode.multiline && s.after.head? == some '\n')
  | textStart => s.before.isEmpty
  | textEnd => s.after.isEmpty
  | wordEdge negated =>
    !(s.before.isEmpty && s.after.isEmpty) &&
      ((isWordAt mode.ascii s.before.head? != isWordAt mode.ascii s.after.head?) != negated)

/-! ## Repetitions -/

/-- What follows a tree. -/
abbrev Continuation := Spot → Option Spot

/-- A tree as a function of what follows it. -/
abbrev Matching := Spot → Continuation → Option Spot

/-- Whether another round may start: the count allows it and the last round got somewhere. -/
def mayRepeat (greatest : Option Nat) (count : Nat) (last : Option Nat) (s : Spot) : Bool :=
  greatest.all (count < ·) && last != some s.position

/-- Rounds of a repetition that takes as much as it can. -/
def greedyRounds (body : Matching) (least : Nat) (greatest : Option Nat) :
    Nat → Nat → Option Nat → Matching
  | 0, _, _, _, _ => none
  | bound + 1, count, last, s, k =>
    if count < least then body s fun t ↦ greedyRounds body least greatest bound (count + 1) last t k
    else
      let more :=
        if mayRepeat greatest count last s then
          body s fun t ↦
            greedyRounds body least greatest bound (count + 1) (some s.position) t k
        else none
      more.or (k s)

/-- Rounds of a repetition that takes as little as it can. -/
def lazyRounds (body : Matching) (least : Nat) (greatest : Option Nat) :
    Nat → Nat → Option Nat → Matching
  | 0, _, _, _, _ => none
  | bound + 1, count, last, s, k =>
    if count < least then body s fun t ↦ lazyRounds body least greatest bound (count + 1) last t k
    else
      (k s).or
        (if mayRepeat greatest count last s then
          body s fun t ↦ lazyRounds body least greatest bound (count + 1) (some s.position) t k
        else none)

/-- Where a repetition ends that gives nothing back. -/
def possessiveEnd (body : Matching) (least : Nat) (greatest : Option Nat) :
    Nat → Nat → Option Nat → Spot → Option Spot
  | 0, _, _, _ => none
  | bound + 1, count, last, s =>
    if count < least then
      (body s some).bind (possessiveEnd body least greatest bound (count + 1) last)
    else if mayRepeat greatest count last s then
      match body s some with
      | some t => possessiveEnd body least greatest bound (count + 1) (some s.position) t
      | none => some s
    else some s

/-- More rounds than a repetition can have. -/
def roundBound (least : Nat) (s : Spot) : Nat := least + s.after.length + 3

def rounds (kind : Repetition) (least : Nat) (greatest : Option Nat) (body : Matching) : Matching :=
  fun s k ↦
    match kind with
    | .greedy => greedyRounds body least greatest (roundBound least s) 0 none s k
    | .lazy => lazyRounds body least greatest (roundBound least s) 0 none s k
    | .possessive =>
      (possessiveEnd body least greatest (roundBound least s) 0 none s).bind k

/-! ## Trees -/

def sameText (mode : Mode) (a b : List Char) : Bool :=
  if mode.ignoreCase then
    let small := if mode.ascii then Char.toLower else Case.lower
    a.map small == b.map small
  else a == b

/-- Matches the text of a group once more. -/
def repeatText (mode : Mode) (wanted : List Char) : Nat → Matching
  | 0, s, k => if wanted.isEmpty then k s else none
  | n + 1, s, k =>
    match wanted, s.step? with
    | [], _ => k s
    | w :: wanted, some (c, t) =>
      if sameText mode [w] [c] then repeatText mode wanted n t k else none
    | _ :: _, none => none

/-- One character that passes a test. -/
def single (test : Char → Bool) : Matching := fun s k ↦
  match s.step? with
  | some (c, t) => if test c then k t else none
  | none => none

/-- The ways to match a tree from a spot, each followed by the continuation; the first success. -/
def run : Node → Matching
  | .empty, s, k => k s
  | .code mode negated n, s, k => single (fun c ↦ codeMatches mode n c != negated) s k
  | .any dotAll, s, k => single (fun c ↦ dotAll || c != '\n') s k
  | .set mode negated items, s, k => single (fun c ↦ setMatches mode items c != negated) s k
  | .anchor mode kind, s, k => if kind.holds mode s then k s else none
  | .seq a b, s, k => run a s fun t ↦ run b t k
  | .alt a b, s, k => (run a s k).or (run b s k)
  | .group n body, s, k => run body (s.mark (2 * n)) fun t ↦ k (t.mark (2 * n + 1))
  | .backref mode n _, s, k =>
    match s.span? n with
    | none => none
    | some (first, last) =>
      let wanted := s.slice first last
      repeatText mode wanted wanted.length s k
  | .choice n yes no, s, k => if (s.span? n).isSome then run yes s k else run no s k
  | .look behind negated body, s, k =>
    let from? := if behind then s.back? body.width.least else some s
    match from?.bind fun t ↦ run body t some with
    | some t => if negated then none else k { s with marks := t.marks }
    | none => if negated then k s else none
  | .atomic body, s, k => (run body s some).bind k
  | .repeated kind least greatest body, s, k => rounds kind least greatest (run body) s k

/-- The first match that starts at the spot or behind it. -/
def searchFrom (node : Node) : List Char → Spot → Option Spot
  | [], s => run node s some
  | _ :: rest, s =>
    (run node s some).or
      (match s.step? with
      | some (_, t) => searchFrom node rest t
      | none => none)

/-- Where the first match in a text ends. -/
def search (node : Node) (text : List Char) : Option Spot := searchFrom node text (Spot.start text)

end ReceiptRules.Pattern
