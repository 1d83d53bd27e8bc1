/-
  Blueprint.Storage.Path — paths of files (the suffixes that `is_dsl_file` and `open_workspace` look
  at).

  A path is a row of names between slashes. Empty names and single dots say nothing and are dropped;
  two dots are kept, since what they lead to depends on the files. The suffix of a name begins at its
  last dot, unless that is its first or its last character; it decides what a file holds.

  The system takes a path as bytes. It has no null character, and no half either, but for those that
  stand for single bytes.
-/

import Blueprint.Fault
import Blueprint.Text.Blank
import Blueprint.Text.Half
import Blueprint.Text.LowerCase
import Blueprint.Text.Utf8

namespace Blueprint

open Text

structure Path where
  /-- What stands in front of the first name: nothing, or the slashes of an absolute path. -/
  root : String := ""
  parts : List String
  deriving DecidableEq, Repr

namespace Path

/-- Two slashes in front are kept apart from one; more than two count as one. -/
def rootOf (cs : List Char) : String :=
  match (cs.takeWhile (· == '/')).length with
  | 0 => ""
  | 2 => "//"
  | _ => "/"

def isDropped (name : List Char) : Bool := name.isEmpty || name == ['.']

def ofText (s : String) : Path :=
  { root := rootOf s.toList
    parts := ((fields (· == '/') s.toList).filter (!isDropped ·)).map String.ofList }

def text (p : Path) : String :=
  if p.root = "" ∧ p.parts = [] then "." else p.root ++ "/".intercalate p.parts

/-- The half stands for a byte that is no text. -/
def isByteHalf (n : Nat) : Bool := 0xDC80 ≤ n && n < 0xDD00

/-- How many bytes the system takes a name for. -/
def byteLength (name : String) : Nat :=
  (points name.toList).foldl (fun length n => length + if isHalf n then 1 else byteCount n) 0

/-- Why the system does not take the path, if it does not. -/
def accident? (p : Path) : Option Accident :=
  let ns := points p.text.toList
  if ns.any fun n => isHalf n && !isByteHalf n then some .halfCharacter
  else if ns.contains 0 then some .nullInPath
  else none

/-- The last name, if there is one. -/
def name (p : Path) : String := p.parts.getLast?.getD ""

/-- The directory that the path stands in. -/
def parent (p : Path) : Path := { p with parts := p.parts.dropLast }

/-- The part of a name from its last dot on. -/
def suffixOf (name : List Char) : List Char :=
  let behind := (name.reverse.takeWhile (· != '.')).reverse
  let before := name.length - behind.length
  if behind.isEmpty || before ≤ 1 then [] else '.' :: behind

def suffix (p : Path) : List Char := suffixOf p.name.toList

def hasSuffix (p : Path) (suffixes : List String) : Bool := suffixes.contains (String.ofList (lowercase p.suffix))

/-- The file holds a document. -/
def isDocument (p : Path) : Bool := p.hasSuffix [".dsl", ".txt"]

/-- The file holds a workspace as JSON. -/
def isJson (p : Path) : Bool := p.hasSuffix [".json"]

/-- The suffix or, if there is none, the name: by which a file is refused. -/
def kindShown (p : Path) : String :=
  if p.suffix.isEmpty then p.name else String.ofList p.suffix

end Path

end Blueprint
