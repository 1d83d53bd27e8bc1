/-
  Blueprint.Identifier.Allocation — identifiers for the elements of a document (`IdentifierAllocator`,
  `is_dsl_identifier`, `RESERVED_WORDS`).

  An id that can stand as an identifier is kept as it is. Any other gets the letters and digits of its
  element's name and of the first part of the id, and a number if that is taken. The ids that are kept
  go first, so no made-up identifier takes one of them, and reserved words are taken from the start.
-/

import Blueprint.Dictionary
import Blueprint.Identifier.Fresh
import Blueprint.Model.Workspace
import Blueprint.Text.Line

namespace Blueprint

open Text

/-- The words that begin a statement or stand for something in one. -/
def reservedWords : List String :=
  ["workspace", "model", "views", "styles", "group", "element", "position", "this",
    "include", "exclude", "autoLayout", "title",
    "person", "softwareSystem", "container", "component", "deploymentNode", "infrastructureNode",
    "systemLandscape", "systemContext", "deployment"]

def isIdentifierChar (c : Char) : Bool := isAsciiAlphanumeric c || c == '_'

/-- An ASCII letter followed by letters, digits and low lines, and no reserved word; a line feed behind
the last of them is let through. -/
def isIdentifier (s : String) : Bool :=
  !reservedWords.contains s &&
    match s.toList with
    | [] => false
    | c :: cs => isAsciiLetter c && (dropFinalLineFeed cs).all isIdentifierChar

structure Allocation where
  byId : Dictionary String := {}
  taken : List String := reservedWords

namespace Allocation

def assign (a : Allocation) (id identifier : String) : Allocation :=
  { byId := a.byId.insert id identifier, taken := identifier :: a.taken }

/-- The identifier that an element would like whose id cannot be one. -/
def madeUp (e : Element) : String :=
  let letters := e.name.toList.filter isAsciiAlphanumeric
  let base := match letters with
    | [] => "element".toList
    | c :: _ => if isAsciiLetter c then letters else "element".toList ++ letters
  let short := (e.id.toList.filter isAsciiAlphanumeric).take 4
  String.ofList (if short.isEmpty then base else base ++ '_' :: short)

def keep (a : Allocation) (e : Element) : Allocation :=
  if isIdentifier e.id && !a.taken.contains e.id then a.assign e.id e.id else a

def complete (a : Allocation) (e : Element) : Allocation :=
  if a.byId.contains e.id then a else a.assign e.id (firstFree (madeUp e) a.taken)

def ofElements (elements : List Element) : Allocation :=
  elements.foldl complete (elements.foldl keep {})

def get? (a : Allocation) (id : String) : Option String := a.byId.find? id

def identifiers (a : Allocation) : List String := a.byId.values

end Allocation

end Blueprint
