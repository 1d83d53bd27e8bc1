/-
  Blueprint.Service.Address — where a request goes.

  An address is a path and a query, both without escapes, and perhaps names a place of its own. In the
  path of a reference, single dots are dropped and two dots take away the name before them; then
  escapes, a percent sign with two hexadecimal digits for each byte, are undone, and those that come out
  of that once more.

  Proved: what has no escapes stays as it is (`unescape_of_plain`); a rooted path starts with a slash
  (`head_rooted`).
-/

import Blueprint.Fault
import Blueprint.Json.Shown
import Blueprint.Service.Reference
import Blueprint.Text.Blank
import Blueprint.Text.Half

namespace Blueprint

open Text

/-! ## Escapes -/

def bytesOf (c : Char) : List Nat := (String.ofList [c]).toUTF8.toList.map (·.toNat)

/-- The bytes that escaped text stands for. -/
def escapedBytes : List Char → List Nat
  | [] => []
  | '%' :: a :: b :: cs =>
    match hexValue? a, hexValue? b with
    | some high, some low => (high * 16 + low) :: escapedBytes cs
    | _, _ => bytesOf '%' ++ escapedBytes (a :: b :: cs)
  | c :: cs => bytesOf c ++ escapedBytes cs

/-- Escaped text; bytes that are no text become replacement characters. -/
def unescape (cs : List Char) : List Char :=
  if cs.contains '%' then shownBytes (escapedBytes cs) else cs

/-! ## Paths -/

/-- The names of a path without those that only say where to go. Two dots at the start stay at the start. -/
def withoutDots (names : List (List Char)) : List (List Char) :=
  names.foldl (fun kept name =>
    if name = ['.'] then kept
    else if name = ['.', '.'] then (if kept = [[]] then kept else kept.dropLast)
    else kept ++ [name]) []

/-- The path without dots between its slashes. -/
def withoutDotNames (path : List Char) : List Char :=
  ['/'].intercalate (withoutDots (fields (· == '/') path))

/-- The path, with a slash before it unless it has one. -/
def rooted : List Char → List Char
  | '/' :: cs => '/' :: cs
  | cs => '/' :: cs

def withoutTrailingSlashes (path : List Char) : List Char := (path.reverse.dropWhile (· == '/')).reverse

/-- The path that the slashes and dots of one lead to. -/
def resolved (path : List Char) : List Char := unescape (unescape (rooted (withoutDotNames path)))

/-- Where the path of a reference leads. One that names no place of its own leads into the service from
its root, and if something stands before it, its dots have gone before that. -/
def destination (r : Reference) : List Char :=
  if r.isAbsolute then resolved r.path
  else resolved ('/' :: (if r.isBare then r.path else withoutDotNames r.path).dropWhile (· == '/'))

structure Address where
  /-- The scheme of an address that names a place of its own. -/
  scheme : Option (List Char) := none
  /-- Starts with a slash; escapes have been undone in it. -/
  path : List Char
  query : List (String × String) := []
  deriving DecidableEq, Repr

namespace Address

/-- The names behind the slashes of the path. -/
def names (a : Address) : List String := ((fields (· == '/') a.path).drop 1).map saying

/-- A part of a query: a name and, behind an equals sign, its value, plus signs standing for blanks. -/
def queryPart (cs : List Char) : String × String :=
  let plain (cs : List Char) : String := saying (unescape (cs.map fun c => if c == '+' then ' ' else c))
  (plain (cs.takeWhile (· != '=')), plain ((cs.dropWhile (· != '=')).drop 1))

def queryOf (cs : List Char) : List (String × String) :=
  ((fields (· == '&') cs).filter (!·.isEmpty)).map queryPart

def ofReference (r : Reference) : Address :=
  { scheme := if r.isAbsolute then some r.scheme else none
    path := destination r, query := queryOf r.query }

/-- The address that a text is. -/
def ofText (s : String) : Except Accident Address :=
  match characters? s with
  | none =>
    let r := Reference.split s.toList
    let isHalfRead := Reference.isReadable s.toList && (r.isSound || !isWhole (String.ofList r.authority.user))
    .error (if isHalfRead then .halfCharacter else .unaddressable)
  | some cs =>
    match Reference.ofText? cs with
    | none => .error .unaddressable
    | some r => if r.isTooLong then .error .unaddressable else .ok (ofReference r)

/-- Why nothing is sent to the address, if so. The service listens wherever it is called, if it is
called under a scheme that it knows. -/
def obstacle? (a : Address) : Option Accident :=
  match a.scheme.map String.ofList with
  | none | some "http" | some "https" => none
  | some "ws" | some "wss" => some .standingConnection
  | some _ => some .unknownScheme

/-! ## Parameters -/

/-- A parameter as text: truth values are in lower case and null is empty. -/
def parameterText : Json → String
  | .null => ""
  | .bool b => if b then "true" else "false"
  | j => j.shown

/-- The values that a parameter is given: an array gives each of its items. -/
def parameterTexts : Json → List String
  | .arr items => items.map parameterText
  | j => [parameterText j]

/-- The characters that stand for themselves in a parameter, or for a blank. -/
def isParameterChar (c : Char) : Bool := isAsciiAlphanumeric c || ['_', '.', '-', '~', ' '].contains c

/-- How long a query is when it is written with escapes. -/
def queryLength (query : List (String × String)) : Nat :=
  let length (s : String) : Nat := Reference.escapedLength isParameterChar ((points s.toList).map Char.ofNat)
  query.foldl (fun n p => n + length p.1 + length p.2 + 2) 0 - 1

/-- A value that may name another one: no array and no object. -/
def isName : Json → Bool
  | .arr _ | .obj _ => false
  | _ => true

/-- A pair of a name and a value: the first two items of an array or characters of a text. -/
def pairOf : Json → Except Accident (String × String)
  | .arr (name :: items) =>
    if !isName name then .error .wrongArguments
    else items.head?.elim (.error .tooFewItems) fun value => .ok (name.shown, parameterText value)
  | .str s =>
    match points s.toList with
    | name :: value :: _ => .ok (String.ofList (ofPoint name), String.ofList (ofPoint value))
    | _ => .error .tooFewItems
  | .arr [] => .error .tooFewItems
  | .obj _ => .error .unknownField
  | _ => .error .wrongArguments

/-- The parameters that a value gives: the fields of an object, the pairs in an array, or those that a
text writes as a query does. -/
def parametersOf : Json → Except Accident (List (String × String))
  | .obj fields => .ok (fields.flatMap fun p => (parameterTexts p.2).map (p.1, ·))
  | .arr pairs => pairs.mapM pairOf
  | .str s => (characters? s).elim (.error .halfCharacter) fun cs => .ok (queryOf cs)
  | j => if j.isVoid then .ok [] else .error .noFields

/-- The address with parameters in the place of its query. -/
def withParameters (a : Address) (parameters : Json) : Except Accident Address := do
  let query ← parametersOf parameters
  if !query.all fun p => isWhole p.1 && isWhole p.2 then throw .halfCharacter
  if Reference.lengthBound < queryLength query then throw .unaddressable
  return { a with query }

/-- The value that the query gives last for a name. -/
def parameter? (a : Address) (name : String) : Option String :=
  (a.query.reverse.find? (·.1 == name)).map (·.2)

/-! ## Slashes at the end -/

/-- The address without the slashes at its end. -/
def trimmed (a : Address) : Address := { a with path := withoutTrailingSlashes a.path }

/-- Where an address leads that is written as a path once more. -/
def reread (a : Address) : Address := { a with path := resolved a.path }

end Address

/-! ## Small facts -/

theorem unescape_of_plain {cs : List Char} (h : '%' ∉ cs) : unescape cs = cs := by
  simp [unescape, h]

theorem head_rooted (cs : List Char) : (rooted cs).head? = some '/' := by
  unfold rooted
  split <;> rfl

end Blueprint
