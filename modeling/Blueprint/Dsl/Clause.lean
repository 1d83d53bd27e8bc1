/-
  Blueprint.Dsl.Clause — what a statement says (`classify_statement`, with the patterns from
  `ELEMENT_RE` to `TITLE_RE`).

  The grammar of a statement depends on whether it stands among the views. There it is a view, a title
  or a position; elsewhere an element, a group or a relationship. A clause keeps the pieces of the
  statement as they are written. Names are runs of word characters and dots. `rest` is what follows on
  the statement's line; a line feed at the very end does not count as a second line.
-/

import Blueprint.Dsl.Statement
import Blueprint.Model.Kind
import Blueprint.Number.Numeral
import Blueprint.Text.Quoted
import Blueprint.Text.Word

namespace Blueprint.Dsl

open Text

/-! ## Pieces -/

def dropWord? (word cs : List Char) : Option (List Char) :=
  if word.isPrefixOf cs then some (cs.drop word.length) else none

/-- Drops blanks, of which there must be one. -/
def dropBlanks? : List Char → Option (List Char)
  | c :: cs => if isBlank c then some (trimLeft cs) else none
  | [] => none

def isNameChar (c : Char) : Bool := isWordChar c || c == '.'

def name? (cs : List Char) : Option (List Char × List Char) :=
  let name := cs.takeWhile isNameChar
  if name.isEmpty then none else some (name, cs.dropWhile isNameChar)

/-- A numeral as it is written: sign, digits, and digits behind a point. -/
structure Numeral where
  negative : Bool
  whole : List Char
  fraction : Option (List Char)
  deriving DecidableEq, Repr

namespace Numeral

def text (n : Numeral) : List Char :=
  (if n.negative then ['-'] else []) ++ n.whole ++
    match n.fraction with
    | some ds => '.' :: ds
    | none => []

def value (n : Numeral) : Binary64 := .ofNumeral n.negative n.whole (n.fraction.getD [])

end Numeral

def fraction? : List Char → Option (List Char × List Char)
  | '.' :: cs =>
    let ds := cs.takeWhile isDigit
    if ds.isEmpty then none else some (ds, cs.dropWhile isDigit)
  | _ => none

def unsigned? (negative : Bool) (cs : List Char) : Option (Numeral × List Char) :=
  let whole := cs.takeWhile isDigit
  let rest := cs.dropWhile isDigit
  if whole.isEmpty then none
  else match fraction? rest with
    | some (ds, r) => some (⟨negative, whole, some ds⟩, r)
    | none => some (⟨negative, whole, none⟩, rest)

def numeral? : List Char → Option (Numeral × List Char)
  | '-' :: cs => unsigned? true cs
  | cs => unsigned? false cs

/-- A quoted text, as it is written between its quotes. -/
def quoted? : List Char → Option (List Char × List Char)
  | '"' :: cs => closeQuote? cs
  | _ => none

def restOfLine? (cs : List Char) : Option (List Char) :=
  let rest := dropFinalLineFeed cs
  if rest.contains '\n' then none else some rest

/-- A word of its own at the beginning, and the rest of the line. -/
def keyword? (word cs : List Char) : Option (List Char) := do
  let rest ← dropWord? word cs
  match rest with
  | c :: _ => if isWordChar c then none else restOfLine? rest
  | [] => some []

/-! ## Clauses -/

inductive Clause where
  | close
  | workspace (rest : List Char)
  | model
  | views
  | styles
  | element (identifier : Option (List Char)) (kind : ElementKind) (name rest : List Char)
  | group (name : List Char)
  | relationship (source : Option (List Char)) (target rest : List Char)
  /-- The anchor is a name or a star. -/
  | view (kind : ViewKind) (anchor : Option (List Char)) (rest : List Char)
  | viewElement (identifier : List Char)
  | elementPosition (identifier : List Char) (x y : Numeral)
  | position (x y : Numeral)
  | viewTitle (title : List Char)
  | unknown
  deriving DecidableEq, Repr

/-- `[identifier =] kind "name" rest` -/
def element? (cs : List Char) : Option Clause :=
  let (identifier, cs) : Option (List Char) × List Char :=
    match name? cs with
    | some (n, r) =>
      match trimLeft r with
      | '=' :: r => (some n, trimLeft r)
      | _ => (none, cs)
    | none => (none, cs)
  ElementKind.declarable.findSome? fun kind => do
    let r ← dropWord? kind.keyword.toList cs
    let r ← dropBlanks? r
    let (name, r) ← quoted? r
    let rest ← restOfLine? r
    return .element identifier kind name rest

/-- `group "name"` -/
def group? (cs : List Char) : Option Clause := do
  let r ← dropWord? "group".toList cs
  let r ← dropBlanks? r
  let (name, _) ← quoted? r
  return .group (unescape name)

/-- `[source] -> target rest` -/
def relationship? (cs : List Char) : Option Clause := do
  let (source, r) : Option (List Char) × List Char :=
    match name? cs with
    | some (n, r) => (some n, r)
    | none => (none, cs)
  let r ← dropWord? "->".toList (trimLeft r)
  let (target, r) ← name? (trimLeft r)
  let rest ← restOfLine? r
  return .relationship source target rest

/-- A name or a star. -/
def anchor? (cs : List Char) : Option (List Char × List Char) :=
  match cs with
  | '*' :: r => some (['*'], r)
  | _ => name? cs

def anchoredKinds : List ViewKind := [.systemContext, .container, .component, .deployment]

/-- `systemLandscape rest` or `kind anchor rest` -/
def view? (cs : List Char) : Option Clause :=
  match keyword? "systemLandscape".toList cs with
  | some rest => some (.view .systemLandscape none rest)
  | none => anchoredKinds.findSome? fun kind => do
    let r ← dropWord? kind.keyword.toList cs
    let r ← dropBlanks? r
    let (anchor, r) ← anchor? r
    let rest ← restOfLine? r
    return .view kind (some anchor) rest

/-- `element identifier x y` -/
def elementPosition? (cs : List Char) : Option Clause := do
  let r ← dropWord? "element".toList cs
  let r ← dropBlanks? r
  let (identifier, r) ← name? r
  let r ← dropBlanks? r
  let (x, r) ← numeral? r
  let r ← dropBlanks? r
  let (y, _) ← numeral? r
  return .elementPosition identifier x y

/-- `element identifier {` -/
def viewElement? (cs : List Char) : Option Clause := do
  let r ← dropWord? "element".toList cs
  let r ← dropBlanks? r
  let (identifier, r) ← name? r
  let r := trimLeft r
  if r = ['{'] ∨ r = ['{', '\n'] then return .viewElement identifier else none

/-- `position x y` -/
def position? (cs : List Char) : Option Clause := do
  let r ← dropWord? "position".toList cs
  let r ← dropBlanks? r
  let (x, r) ← numeral? r
  let r ← dropBlanks? r
  let (y, _) ← numeral? r
  return .position x y

/-- `title "title"` -/
def viewTitle? (cs : List Char) : Option Clause := do
  let r ← dropWord? "title".toList cs
  let r ← dropBlanks? r
  let (title, _) ← quoted? r
  return .viewTitle title

def viewClause (s : Statement) : Clause :=
  ((elementPosition? s.text).or <| (viewElement? s.text).or <| (position? s.text).or <|
    (viewTitle? s.text).or <| view? s.body).getD .unknown

/-- A line out of a comment says something among the views only. -/
def modelClause (s : Statement) : Clause :=
  if s.fromComment then .unknown
  else ((element? s.body).or <| (group? s.body).or <| relationship? s.body).getD .unknown

def classify (s : Statement) (inViews : Bool) : Clause :=
  if s.isClose then .close
  else if s.opens && s.body == "model".toList then .model
  else if s.opens && s.body == "views".toList then .views
  else if s.opens && s.body == "styles".toList then .styles
  else match keyword? "workspace".toList s.body with
    | some rest => .workspace rest
    | none => if inViews then viewClause s else modelClause s

end Blueprint.Dsl
