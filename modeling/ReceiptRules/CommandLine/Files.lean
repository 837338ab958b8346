import ReceiptRules.Failure
import ReceiptRules.Text.Search

/-!
# Files

A tree of text files and directories. Reading takes every kind of line end for a line feed. Files can be
written only into directories that exist.

Paths are told apart as they are written: a relative path and an absolute one are two paths, and the
mark of the parent directory is a name like any other.
-/

namespace ReceiptRules

/-- A path without empty parts and parts that stand for the same place. -/
structure Path where
  absolute : Bool
  parts : List String
deriving DecidableEq

namespace Path

open Text

def ofText (s : String) : Path :=
  let cs := s.toList
  ⟨cs.head? == some '/', (Search.split "/" s).filter fun part ↦ !part.isEmpty && part != "."⟩

def text (p : Path) : String :=
  if p.absolute then "/" ++ "/".intercalate p.parts
  else if p.parts.isEmpty then "." else "/".intercalate p.parts

/-- A name without its last ending. -/
def stem (name : String) : String :=
  let cs := name.toList
  let ending := cs.reverse.takeWhile (· != '.')
  let kept := cs.take (cs.length - ending.length - 1)
  if ending.isEmpty ∨ kept.isEmpty then name else String.ofList kept

/-- The path beside this one whose name has another ending. -/
def withEnding (p : Path) (ending : String) : Except Failure Path :=
  match p.parts.getLast? with
  | some name => .ok { p with parts := p.parts.dropLast ++ [stem name ++ ending] }
  | none => .error (.namelessPath p.text)

/-- Whether the second path is the first one or goes on behind it. -/
def leadsTo (p q : Path) : Bool := p.absolute == q.absolute && p.parts.isPrefixOf q.parts

end Path

structure Files where
  entries : List (Path × String)
  /-- Directories that are there whatever files they hold. -/
  directories : List Path := []

namespace Files

def find? (files : Files) (p : Path) : Option String := files.entries.lookup p

/-- Whether the path is a root, leads to a directory that is known, or goes on to some file. -/
def isDirectory (files : Files) (p : Path) : Bool :=
  p.parts.isEmpty || files.directories.any p.leadsTo ||
    files.entries.any fun (file, _) ↦ p.leadsTo file && file != p

def isThere (files : Files) (p : Path) : Bool := (files.find? p).isSome || files.isDirectory p

/-- Whether the path goes on behind a file. -/
def runsThroughFile (files : Files) (p : Path) : Bool :=
  files.entries.any fun (file, _) ↦ file.leadsTo p && file != p

/-- Why a path that is no file cannot be opened. -/
def obstacle (files : Files) (p : Path) : Failure :=
  if files.isDirectory p then .isDirectory p.text
  else if files.runsThroughFile p then .notDirectory p.text
  else .missingFile p.text

/-- Line feeds in place of all line ends. -/
def lineFeeds : List Char → List Char
  | '\r' :: '\n' :: rest => '\n' :: lineFeeds rest
  | '\r' :: rest => '\n' :: lineFeeds rest
  | c :: rest => c :: lineFeeds rest
  | [] => []

def read (files : Files) (p : Path) : Except Failure String :=
  match files.find? p with
  | some text => .ok (String.ofList (lineFeeds text.toList))
  | none => .error (files.obstacle p)

def put (p : Path) (text : String) : List (Path × String) → List (Path × String)
  | [] => [(p, text)]
  | (q, t) :: rest => if q = p then (p, text) :: rest else (q, t) :: put p text rest

def write (files : Files) (p : Path) (text : String) : Except Failure Files :=
  let folder : Path := { p with parts := p.parts.dropLast }
  if files.isDirectory p || !files.isDirectory folder then .error (files.obstacle p)
  else .ok { files with entries := put p text files.entries }

/-- The files whose text was not the same before. -/
def changedSince (files before : Files) : List (Path × String) :=
  files.entries.filter fun (p, text) ↦ before.find? p != some text

end Files

end ReceiptRules
