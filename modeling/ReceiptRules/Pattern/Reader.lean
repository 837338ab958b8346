import ReceiptRules.Pattern.Node
import ReceiptRules.Pattern.Problem
import ReceiptRules.Text.CharacterName
import ReceiptRules.Text.CharacterClass

/-!
# Reading patterns

The text of a pattern is read token by token, a token being a character or a backslash with the
character behind it. The reader looks one token ahead, so a backslash that ends the pattern is found
as soon as the token before it has been taken. Flags that stand at the start hold for the whole
pattern, other flags for their bracket.
-/

namespace ReceiptRules.Pattern.Reader

open Text

/-! ## Tokens -/

inductive Token where
  | plain (c : Char)
  | escaped (c : Char)
deriving DecidableEq

namespace Token

def chars : Token → List Char
  | plain c => [c]
  | escaped c => ['\\', c]

def text (t : Token) : String := String.ofList t.chars

def length (t : Token) : Nat := t.chars.length

def isLetter : Token → Bool
  | plain c => Letter.isLetter c
  | escaped _ => false

end Token

structure Flags where
  ignoreCase : Bool := false
  locale : Bool := false
  multiline : Bool := false
  dotAll : Bool := false
  verbose : Bool := false
  ascii : Bool := false
  template : Bool := false
  unicode : Bool := false
deriving DecidableEq

structure State where
  rest : List Char
  position : Nat
  flags : Flags
  /-- Number of the next group. -/
  nextGroup : Nat
  names : List (String × Nat)
  /-- Widths of the groups that have been closed. -/
  widths : List (Nat × Width)
  /-- While a look-behind is read: the number that was next when it began. -/
  lookBehind : Option Nat
  /-- Groups that conditions name by number, with the places of the first mention. -/
  mentions : List (Nat × Nat)

abbrev Reading := StateT State (Except Problem)

/-- Reports a cause some characters before the next token. -/
def fail {α : Type} (cause : Cause) (back : Nat) : Reading α := do
  throw (.malformed cause (some ((← get).position - back)))

def tokenOf : List Char → Option Token
  | [] => none
  | '\\' :: c :: _ => some (.escaped c)
  | c :: _ => some (.plain c)

def peek : Reading (Option Token) := do return tokenOf (← get).rest

def peekIs (c : Char) : Reading Bool := do return (← peek) == some (.plain c)

/-- Complains about a backslash that ends the pattern. -/
def checkLonely : Reading Unit := do
  let s ← get
  if s.rest == ['\\'] then throw (.malformed .lonelyBackslash (some s.position))

/-- Takes the next token. -/
def next : Reading (Option Token) := do
  let s ← get
  match tokenOf s.rest with
  | none => return none
  | some t =>
    set { s with rest := s.rest.drop t.length, position := s.position + t.length }
    checkLonely
    return some t

/-- Takes the next token if it is the given character. -/
def take (c : Char) : Reading Bool := do
  if ← peekIs c then
    let _ ← next
    return true
  else return false

def isTokenIn (p : Char → Bool) : Option Token → Bool
  | some (.plain c) => p c
  | _ => false

/-- Takes at most `n` characters of a class. -/
def takeUpTo (p : Char → Bool) : Nat → Reading (List Char)
  | 0 => return []
  | n + 1 => do
    match ← peek with
    | some (.plain c) =>
      if p c then
        let _ ← next
        return c :: (← takeUpTo p n)
      else return []
    | _ => return []

/-- Takes all characters of a class. -/
def takeAll (p : Char → Bool) : Reading (List Char) := do takeUpTo p (← get).rest.length

/-- Takes tokens up to a closing character and returns what stands before it. -/
def nameUntil (terminator : Char) (what : String) (taken : List Char) : Nat → Reading String
  | 0 => fail (.missingName what) 0
  | bound + 1 => do
    match ← next with
    | none =>
      if taken.isEmpty then fail (.missingName what) 0
      else fail (.unterminatedName (String.ofList [terminator])) taken.length
    | some t =>
      if t == .plain terminator then
        if taken.isEmpty then fail (.missingName what) 1 else return String.ofList taken
      else nameUntil terminator what (taken ++ t.chars) bound

def takeName (terminator : Char) (what : String) : Reading String := do
  nameUntil terminator what [] ((← get).rest.length + 1)

def checkGroupName (name : String) : Reading Unit := do
  if !Word.isName name.toList then fail (.badGroupName name) (name.length + 1)

/-! ## Escapes -/

def isHex (c : Char) : Bool := c.isDigit || ('a' ≤ c && c ≤ 'f') || ('A' ≤ c && c ≤ 'F')

def isOctal (c : Char) : Bool := '0' ≤ c && c ≤ '7'

def hexValue (c : Char) : Nat :=
  if c.isDigit then c.toNat - 48 else c.toLower.toNat - 87

def numberIn (base : Nat) (digits : List Char) : Nat :=
  digits.foldl (fun n c ↦ base * n + hexValue c) 0

def escapeText (c : Char) (more : List Char) : String := String.ofList ('\\' :: c :: more)

/-- A code point written by a letter and a fixed number of hexadecimal digits. -/
def hexEscape (c : Char) (digits : Nat) : Reading Nat := do
  let ds ← takeUpTo isHex digits
  if ds.length != digits then fail (.incompleteEscape (escapeText c ds)) (ds.length + 2)
  let n := numberIn 16 ds
  if n > 0x10ffff then fail (.badEscape (escapeText c ds)) (ds.length + 2)
  return n

def namedEscape : Reading Nat := do
  if !(← take '\x7b') then fail .missingBrace 0
  let name ← takeName '\x7d' "character name"
  match CharacterName.find? name with
  | some n => return n
  | none => fail (.unknownCharacterName name) (name.length + 4)

/-- Letters that stand for control characters. -/
def controlEscape? : Char → Option Nat
  | 'a' => some 7
  | 'b' => some 8
  | 'f' => some 12
  | 'n' => some 10
  | 'r' => some 13
  | 't' => some 9
  | 'v' => some 11
  | '\\' => some 92
  | _ => none

def category? : Char → Option (Category × Bool)
  | 'd' => some (.digit, false)
  | 'D' => some (.digit, true)
  | 's' => some (.space, false)
  | 'S' => some (.space, true)
  | 'w' => some (.word, false)
  | 'W' => some (.word, true)
  | _ => none

def anchorEscape? : Char → Option Anchor
  | 'A' => some .textStart
  | 'b' => some (.wordEdge false)
  | 'B' => some (.wordEdge true)
  | 'Z' => some .textEnd
  | _ => none

/-- Escapes that are read alike inside and outside of sets. -/
def commonEscape? (c : Char) : Option (Reading Nat) :=
  match c with
  | 'x' => some (hexEscape 'x' 2)
  | 'u' => some (hexEscape 'u' 4)
  | 'U' => some (hexEscape 'U' 8)
  | 'N' => some namedEscape
  | _ => none

def octal (c : Char) (digits : List Char) : Reading Nat := do
  let n := numberIn 8 (c :: digits)
  if n > 0o377 then fail (.octalTooLarge (escapeText c digits)) (digits.length + 2)
  return n

/-- An escape inside a set. -/
def setEscape (c : Char) : Reading SetItem := do
  if let some n := controlEscape? c then return .code n
  if let some (kind, negated) := category? c then return .category kind negated
  match commonEscape? c with
  | some read => return .code (← read)
  | none =>
    if isOctal c then return .code (← octal c (← takeUpTo isOctal 2))
    else if c.isAlphanum then fail (.badEscape (escapeText c [])) 2
    else return .code c.toNat

/-- Complains about a reference to a group that is open or belongs to the look-behind itself. -/
def checkLookBehind (group : Nat) : Reading Unit := do
  let s ← get
  if let some first := s.lookBehind then
    if (s.widths.lookup group).isNone then fail .openGroupReference 0
    if group ≥ first then fail .lookBehindGroupReference 0

/-- A reference to a group by its number. -/
def backreference (mode : Mode) (group back : Nat) : Reading Node := do
  match (← get).widths.lookup group with
  | none => fail .openGroupReference back
  | some width =>
    checkLookBehind group
    return .backref mode group width

/-- Digits behind a backslash outside of sets: three octal digits write a character, fewer digits
name a group. -/
def numericEscape (mode : Mode) (c : Char) : Reading Node := do
  let second ← takeUpTo Char.isDigit 1
  let digits := c :: second
  if second.length == 1 && digits.all isOctal && isTokenIn isOctal (← peek) then
    let third ← takeUpTo isOctal 1
    return .code mode false (← octal c (second ++ third))
  let group := numberIn 10 digits
  if group < (← get).nextGroup then backreference mode group (digits.length + 1)
  else fail (.invalidGroupReference group) digits.length

/-- A tree with what the repetition signs need to know about it. -/
inductive Item where
  | position (node : Node)
  | repetition (node : Node)
  | other (node : Node)

def Item.node : Item → Node
  | position n | repetition n | other n => n

/-- An escape outside of sets. -/
def escape (mode : Mode) (c : Char) : Reading Item := do
  if let some kind := anchorEscape? c then return .position (.anchor mode kind)
  if let some (kind, negated) := category? c then
    return .other (.set mode false [.category kind negated])
  if let some n := controlEscape? c then return .other (.code mode false n)
  match commonEscape? c with
  | some read => return .other (.code mode false (← read))
  | none =>
    if c == '0' then
      return .other (.code mode false (numberIn 8 (← takeUpTo isOctal 2)))
    else if c.isDigit then return .other (← numericEscape mode c)
    else if c.isAlpha then fail (.badEscape (escapeText c [])) 2
    else return .other (.code mode false c.toNat)

/-! ## Sets -/

def setItem (t : Token) : Reading SetItem :=
  match t with
  | .escaped c => setEscape c
  | .plain c => return .code c.toNat

def rangeOf (low high : Token) (a b : SetItem) : Reading SetItem :=
  match a, b with
  | .code lo, .code hi =>
    if hi < lo then fail (.badRange low.text high.text) (low.length + 1 + high.length)
    else return .range lo hi
  | _, _ => fail (.badRange low.text high.text) (low.length + 1 + high.length)

/-- The members of a set up to its closing bracket, which counts as a member when it comes first.
The first argument is the place of the opening bracket. -/
def setItems (opening : Nat) (members : List SetItem) : Nat → Reading (List SetItem)
  | 0 => fail .unterminatedSet 0
  | bound + 1 => do
    match ← next with
    | none => throw (.malformed .unterminatedSet (some opening))
    | some t =>
      if t == .plain ']' && !members.isEmpty then return members
      let item ← setItem t
      if ← take '-' then
        match ← next with
        | none => throw (.malformed .unterminatedSet (some opening))
        | some u =>
          if u == .plain ']' then return members ++ [item, .code 45]
          let last ← setItem u
          setItems opening (members ++ [← rangeOf t u item last]) bound
      else setItems opening (members ++ [item]) bound

/-- A set behind its opening bracket. -/
def setNode (mode : Mode) : Reading Node := do
  let opening := (← get).position - 1
  let negated ← take '^'
  let members ← setItems opening [] ((← get).rest.length + 1)
  match members.eraseDups with
  | [.code n] => return .code mode negated n
  | items => return .set mode negated items

/-! ## Repetitions -/

/-- From this number on a count of repetitions is refused. -/
def repetitionLimit : Nat := 4294967295

structure Bounds where
  least : Nat
  greatest : Option Nat

def boundOf (digits : List Char) : Reading Nat := do
  if digits.length > WholeNumber.digitLimit then throw (.tooManyDigits digits.length)
  let n := numberIn 10 digits
  if n ≥ repetitionLimit then throw .tooManyRepetitions
  return n

/-- Bounds in braces, behind the opening brace; no value where the brace stands for itself. -/
def bracedBounds : Reading (Option Bounds) := do
  if ← peekIs '\x7d' then return none
  let start ← get
  let low ← takeAll Char.isDigit
  let comma ← take ','
  let high ← if comma then takeAll Char.isDigit else pure low
  if !(← take '\x7d') then
    set start
    return none
  let least ← if low.isEmpty then pure 0 else boundOf low
  let greatest ← if high.isEmpty then pure none else some <$> boundOf high
  if greatest.any (· < least) then throw (.malformed .repeatBoundsCrossed (some start.position))
  return some ⟨least, greatest⟩

/-- How a repetition goes, as told by the sign behind it. -/
def repetitionKind : Reading Repetition := do
  if ← take '?' then return .lazy
  else if ← take '+' then return .possessive
  else return .greedy

/-- Repeats the last of the items. The first argument is the place of the repetition sign. -/
def repeatLast (sign : Nat) (bounds : Bounds) (items : List Item) : Reading (List Item) := do
  match items with
  | [] | .position _ :: _ => throw (.malformed .nothingToRepeat (some sign))
  | .repetition _ :: _ => throw (.malformed .multipleRepeat (some sign))
  | .other n :: before =>
    let kind ← repetitionKind
    return .repetition (.repeated kind bounds.least bounds.greatest n) :: before

/-! ## Flags -/

def Flags.isType : Char → Bool := fun c ↦ c == 'a' || c == 'L' || c == 'u'

def Flags.known (c : Char) : Bool := "iLmsxatu".toList.contains c

def Flags.add (f : Flags) : Char → Flags
  | 'i' => { f with ignoreCase := true }
  | 'L' => { f with locale := true }
  | 'm' => { f with multiline := true }
  | 's' => { f with dotAll := true }
  | 'x' => { f with verbose := true }
  | 'a' => { f with ascii := true }
  | 't' => { f with template := true }
  | 'u' => { f with unicode := true }
  | _ => f

def Flags.union (f g : Flags) : Flags :=
  ⟨f.ignoreCase || g.ignoreCase, f.locale || g.locale, f.multiline || g.multiline,
    f.dotAll || g.dotAll, f.verbose || g.verbose, f.ascii || g.ascii, f.template || g.template,
    f.unicode || g.unicode⟩

def Flags.overlaps (f g : Flags) : Bool :=
  (f.ignoreCase && g.ignoreCase) || (f.multiline && g.multiline) || (f.dotAll && g.dotAll) ||
    (f.verbose && g.verbose) || (f.template && g.template)

def flagChar? : Token → Option Char
  | .plain c => if Flags.known c then some c else none
  | .escaped _ => none

/-- Flags to turn on, from the given one to the character that ends them. -/
def flagsOn (added : Flags) (c : Char) : Nat → Reading (Flags × Char)
  | 0 => fail .missingFlagEnd 0
  | bound + 1 => do
    if c == 'L' then fail .localeFlag 0
    let added := added.add c
    if Flags.isType c && added.ascii && added.unicode then fail .incompatibleFlags 0
    match ← next with
    | none => fail .missingFlagEnd 0
    | some t =>
      match t with
      | .plain ')' => return (added, ')')
      | .plain '-' => return (added, '-')
      | .plain ':' => return (added, ':')
      | t =>
        match flagChar? t with
        | some c => flagsOn added c bound
        | none => fail (if t.isLetter then .unknownFlag else .missingFlagEnd) t.length

/-- Flags to turn off, from the given one to the colon. -/
def flagsOff (removed : Flags) (c : Char) : Nat → Reading Flags
  | 0 => fail .missingColon 0
  | bound + 1 => do
    if Flags.isType c then fail .typeFlagOff 0
    let removed := removed.add c
    match ← next with
    | none => fail .missingColon 0
    | some t =>
      if t == .plain ':' then return removed
      match flagChar? t with
      | some c => flagsOff removed c bound
      | none => fail (if t.isLetter then .unknownFlag else .missingColon) t.length

/-- Flags of a bracket: added to the whole pattern, or turned on and off inside the bracket. -/
inductive FlagChange where
  | whole (added : Flags)
  | bracket (added removed : Flags)

def flagChange (first : Char) : Reading FlagChange := do
  let length := (← get).rest.length + 1
  let (added, last) ← if first == '-' then pure ({}, '-') else flagsOn {} first length
  if last == ')' then return .whole added
  if added.template then fail .globalFlagOn 1
  let removed ← if last != '-' then pure {} else do
    match ← next with
    | none => fail .missingFlag 0
    | some t =>
      match flagChar? t with
      | some c => flagsOff {} c length
      | none => fail (if t.isLetter then .unknownFlag else .missingFlag) t.length
  if removed.template then fail .globalFlagOff 1
  if added.overlaps removed then fail .flagOnAndOff 1
  return .bracket added removed

/-- What holds where a part of the pattern is read. -/
structure Scope where
  mode : Mode
  verbose : Bool
  /-- Whether the part stands in no bracket. -/
  outermost : Bool
  /-- Whether the part begins the pattern. -/
  first : Bool

def modeOf (f : Flags) : Mode := ⟨f.ignoreCase, f.ascii, f.multiline, f.dotAll⟩

/-- The scope of the whole pattern under its flags. -/
def Scope.underFlags (scope : Scope) (f : Flags) : Scope :=
  { scope with mode := modeOf f, verbose := f.verbose }

def Mode.changed (mode : Mode) (added removed : Flags) : Mode :=
  ⟨(mode.ignoreCase || added.ignoreCase) && !removed.ignoreCase,
    added.ascii || (mode.ascii && !added.unicode),
    (mode.multiline || added.multiline) && !removed.multiline,
    (mode.dotAll || added.dotAll) && !removed.dotAll⟩

def Scope.inBracket (scope : Scope) (added removed : Flags) : Scope :=
  ⟨Mode.changed scope.mode added removed, (scope.verbose || added.verbose) && !removed.verbose,
    false, false⟩

/-! ## Groups -/

def openGroup (name : Option String) : Reading Nat := do
  let s ← get
  let group := s.nextGroup
  match name with
  | none => set { s with nextGroup := group + 1 }
  | some name =>
    match s.names.lookup name with
    | some earlier => fail (.repeatedGroupName name group earlier) (name.length + 1)
    | none => set { s with nextGroup := group + 1, names := (name, group) :: s.names }
  return group

def closeGroup (group : Nat) (body : Node) : Reading Unit := do
  modify fun s ↦ { s with widths := (group, body.width) :: s.widths }

/-- Complains about a bracket that is not closed. The first argument is its place. -/
def closeBracket (opening : Nat) : Reading Unit := do
  if !(← take ')') then throw (.malformed .unterminatedGroup (some opening))

/-- The group that a condition asks about, by its name or its number. -/
def conditionGroup : Reading Nat := do
  let name ← takeName ')' "group name"
  if Word.isName name.toList then
    match (← get).names.lookup name with
    | some group => return group
    | none => fail (.unknownGroupName name) (name.length + 1)
  match WholeNumber.read name with
  | .error _ => fail (.badGroupName name) (name.length + 1)
  | .ok n =>
    if n < 0 then fail (.badGroupName name) (name.length + 1)
    let group := n.toNat
    if group == 0 then fail .badGroupNumber (name.length + 1)
    if group ≥ 1073741823 then fail (.invalidGroupReference group) (name.length + 1)
    modify fun s ↦
      if (s.mentions.lookup group).isSome then s
      else { s with mentions := s.mentions ++ [(group, s.position - name.length - 1)] }
    return group

/-- Skips a comment up to its closing bracket. -/
def skipComment (opening : Nat) : Nat → Reading Unit
  | 0 => return
  | bound + 1 => do
    match ← peek with
    | none => throw (.malformed .unterminatedComment (some opening))
    | some t =>
      let _ ← next
      if t != .plain ')' then skipComment opening bound

/-- Skips the rest of a line. -/
def skipLine : Nat → Reading Unit
  | 0 => return
  | bound + 1 => do
    match ← next with
    | none => return
    | some t => if t != .plain '\n' then skipLine bound

def isVerboseSpace (c : Char) : Bool := Blank.isAsciiBlank c

/-- The kinds of brackets, told by what follows the opening one. -/
inductive Bracket where
  | capture (name : Option String)
  | plain
  | atomic
  | look (behind negated : Bool)
  | condition
  | reference (name : String)
  | comment
  | flags (change : FlagChange)

def namedBracket : Reading Bracket := do
  if ← take '<' then
    let name ← takeName '>' "group name"
    checkGroupName name
    return .capture (some name)
  else if ← take '=' then
    let name ← takeName ')' "group name"
    checkGroupName name
    return .reference name
  else
    match ← next with
    | none => fail .unexpectedEnd 0
    | some t => fail (.unknownExtension ("P" ++ t.text)) (t.length + 2)

def lookBehindBracket : Reading Bracket := do
  match ← next with
  | none => fail .unexpectedEnd 0
  | some (.plain '=') => return .look true false
  | some (.plain '!') => return .look true true
  | some t => fail (.unknownExtension ("<" ++ t.text)) (t.length + 2)

/-- Reads what follows an opening bracket and tells its kind. -/
def bracket : Reading Bracket := do
  if !(← take '?') then return .capture none
  match ← next with
  | none => fail .unexpectedEnd 0
  | some (.plain 'P') => namedBracket
  | some (.plain ':') => return .plain
  | some (.plain '#') => return .comment
  | some (.plain '=') => return .look false false
  | some (.plain '!') => return .look false true
  | some (.plain '<') => lookBehindBracket
  | some (.plain '(') => return .condition
  | some (.plain '>') => return .atomic
  | some t =>
    match (if t == .plain '-' then some '-' else flagChar? t) with
    | some c => return .flags (← flagChange c)
    | none => fail (.unknownExtension t.text) (t.length + 1)

def referenceTo (mode : Mode) (name : String) : Reading Node := do
  match (← get).names.lookup name with
  | none => fail (.unknownGroupName name) (name.length + 1)
  | some group => backreference mode group (name.length + 1)

/-! ## Patterns -/

mutual

/-- Alternatives up to a closing bracket or the end. The first argument bounds the calls; a multiple
of the length of the pattern is enough. -/
def alternatives : Nat → Scope → Reading (List Node)
  | 0, _ => return []
  | bound + 1, scope => do
    let items ← sequence bound scope []
    let node := Node.sequence (items.reverse.map Item.node)
    if ← take '|' then
      let flags := (← get).flags
      let scope := if scope.outermost then scope.underFlags flags else scope
      return node :: (← alternatives bound { scope with first := false })
    else return [node]

/-- Items up to a bar, a closing bracket or the end; the items come out last first. -/
def sequence : Nat → Scope → List Item → Reading (List Item)
  | 0, _, items => return items
  | bound + 1, scope, items => do
    let sign := (← get).position
    match ← peek with
    | none | some (.plain '|') | some (.plain ')') => return items
    | some t =>
      let _ ← next
      match t with
      | .escaped c => sequence bound scope ((← escape scope.mode c) :: items)
      | .plain c =>
        if scope.verbose && isVerboseSpace c then sequence bound scope items
        else if scope.verbose && c == '#' then
          skipLine ((← get).rest.length + 1)
          sequence bound scope items
        else
          match c with
          | '[' => sequence bound scope (.other (← setNode scope.mode) :: items)
          | '.' => sequence bound scope (.other (.any scope.mode.dotAll) :: items)
          | '^' => sequence bound scope (.position (.anchor scope.mode .start) :: items)
          | '$' => sequence bound scope (.position (.anchor scope.mode .finish) :: items)
          | '?' => sequence bound scope (← repeatLast sign ⟨0, some 1⟩ items)
          | '*' => sequence bound scope (← repeatLast sign ⟨0, none⟩ items)
          | '+' => sequence bound scope (← repeatLast sign ⟨1, none⟩ items)
          | '\x7b' =>
            match ← bracedBounds with
            | some bounds => sequence bound scope (← repeatLast sign bounds items)
            | none => sequence bound scope (.other (.code scope.mode false 123) :: items)
          | '(' => group bound scope sign items
          | c => sequence bound scope (.other (.code scope.mode false c.toNat) :: items)

/-- A bracket and the items behind it. The third argument is the place of the opening bracket. -/
def group : Nat → Scope → Nat → List Item → Reading (List Item)
  | 0, _, _, items => return items
  | bound + 1, scope, opening, items => do
    match ← bracket with
    | .comment =>
      skipComment opening ((← get).rest.length + 1)
      sequence bound scope items
    | .reference name => sequence bound scope (.other (← referenceTo scope.mode name) :: items)
    | .capture name =>
      let number ← openGroup name
      let body ← bracketBody bound (scope.inBracket {} {}) opening
      closeGroup number body
      sequence bound scope (.other (.group number body) :: items)
    | .plain =>
      let body ← bracketBody bound (scope.inBracket {} {}) opening
      sequence bound scope (.other body :: items)
    | .atomic =>
      let body ← bracketBody bound (scope.inBracket {} {}) opening
      sequence bound scope (.other (.atomic body) :: items)
    | .flags (.bracket added removed) =>
      let body ← bracketBody bound (scope.inBracket added removed) opening
      sequence bound scope (.other body :: items)
    | .flags (.whole added) =>
      modify fun s ↦ { s with flags := s.flags.union added }
      if !scope.first || !items.isEmpty then
        throw (.malformed .flagsNotAtStart (some opening))
      sequence bound (scope.underFlags (← get).flags) items
    | .look behind negated =>
      let outer := (← get).lookBehind
      if behind && outer.isNone then modify fun s ↦ { s with lookBehind := some s.nextGroup }
      let nodes ← alternatives bound (scope.inBracket {} {})
      if behind then modify fun s ↦ { s with lookBehind := outer }
      closeBracket opening
      sequence bound scope (.other (.look behind negated (.alternatives nodes)) :: items)
    | .condition =>
      let number ← conditionGroup
      checkLookBehind number
      let inner := scope.inBracket {} {}
      let yes ← sequence bound inner []
      let no ← if ← take '|' then sequence bound inner [] else pure []
      if ← peekIs '|' then fail .tooManyBranches 0
      closeBracket opening
      let branch (items : List Item) := Node.sequence (items.reverse.map Item.node)
      sequence bound scope (.other (.choice number (branch yes) (branch no)) :: items)

/-- The body of a bracket and the closing one. -/
def bracketBody : Nat → Scope → Nat → Reading Node
  | 0, _, _ => return .empty
  | bound + 1, scope, opening => do
    let nodes ← alternatives bound scope
    closeBracket opening
    return .alternatives nodes

end

/-- A whole pattern with the flags that hold for all of it. -/
def whole : Reading (Node × Flags) := do
  checkLonely
  let nodes ← alternatives (4 * (← get).rest.length + 8) ⟨{}, false, true, true⟩
  let s ← get
  if s.flags.ascii && s.flags.unicode then throw .contradictoryFlags
  if !s.rest.isEmpty then fail .unbalancedParenthesis 0
  match s.mentions.find? fun (group, _) ↦ group ≥ s.nextGroup with
  | some (group, position) =>
    throw (.malformed (.invalidGroupReference group) (some position))
  | none => return (.alternatives nodes, s.flags)

/-- The tree of a pattern text. -/
def read (cs : List Char) : Except Problem (Node × Flags) :=
  (whole.run ⟨cs, 0, {}, 1, [], [], none, []⟩).map Prod.fst

end ReceiptRules.Pattern.Reader
