/-
  Blueprint.Dsl.Builder — from statements to a model, one statement at a time (`ModelBuilder.feed` and
  its handlers, `_on_workspace` to `_on_view_title`).

  The builder keeps a stack of the blocks that are open, innermost first, and what has been declared so
  far. Elements are nested by the stack and entered in the identifier table at once; relationships,
  anchors and positions are kept as they are written until every identifier is known. Inside styles,
  and directly inside a block that means nothing, statements only open and close blocks. An id is drawn
  for each element, group and view as its statement is fed.

  Proved: a statement closes a block (`feed_close`), is skipped (`feed_skipped`) or is handled (`feed_handled`).
-/

import Blueprint.Dsl.Argument
import Blueprint.Dsl.Clause
import Blueprint.Identifier.Slug
import Blueprint.Layout.Positions

namespace Blueprint.Dsl

open Text

inductive Frame where
  | workspace
  | model
  | views
  | styles
  | element (qualified id : String)
  | group (id : String)
  | view
  | viewElement (identifier : String)
  /-- Any other block; its contents are skipped. -/
  | block
  deriving DecidableEq, Repr

structure PendingElement where
  id : String
  /-- Qualified by the enclosing elements. -/
  identifier : String
  kind : ElementKind
  name : String
  description : String := ""
  technology : Option String := none
  parentId : Option String := none
  tags : List String := []
  isExternal : Bool := false
  deriving DecidableEq, Repr

structure PendingRelationship where
  source : String
  target : String
  description : String
  technology : Option String
  tags : List String
  line : Nat
  deriving DecidableEq, Repr

structure PendingView where
  view : View
  anchor : Option String
  line : Nat
  deriving DecidableEq, Repr

structure Builder where
  table : IdentifierTable := {}
  positions : Positions := {}
  elements : List PendingElement := []
  relationships : List PendingRelationship := []
  views : List PendingView := []
  warnings : List String := []
  /-- Name and description of the first workspace statement. -/
  heading : Option (String × String) := none
  stack : List Frame := []
  drawn : Nat
  deriving DecidableEq, Repr

def importedWorkspaceName : String := "Imported Workspace"

/-- A reference to the enclosing element. -/
def selfReference : List Char := "this".toList

namespace Builder

def inViews (b : Builder) : Bool := b.stack.contains .views

def inStyles (b : Builder) : Bool := b.stack.contains .styles

/-- Statements are skipped here. -/
def isSkipping (b : Builder) : Bool := b.inStyles || b.stack.head? == some .block

def push (b : Builder) (frame : Frame) : Builder := { b with stack := frame :: b.stack }

def pushIf (b : Builder) (opens : Bool) (frame : Frame) : Builder := if opens then b.push frame else b

def warn (b : Builder) (warning : String) : Builder := { b with warnings := b.warnings ++ [warning] }

/-- The id of the element or group whose block is innermost. -/
def parentId (b : Builder) : Option String :=
  match b.stack with
  | .element _ id :: _ => some id
  | .group id :: _ => some id
  | _ => none

/-- The qualified identifier of the nearest enclosing element. -/
def owner? (b : Builder) : Option String :=
  b.stack.findSome? fun
    | .element qualified _ => some qualified
    | _ => none

/-- Groups take no part in qualified identifiers. -/
def qualify (b : Builder) (identifier : String) : String :=
  match b.owner? with
  | some owner => owner ++ "." ++ identifier
  | none => identifier

def firstChars (n : Nat) (s : String) : String := String.ofList (s.toList.take n)

def onWorkspace (b : Builder) (opens : Bool) (rest : List Char) : Builder :=
  let b := match b.heading with
    | some _ => b
    | none =>
      let args := quotedArguments rest
      { b with heading := some (args[0]?.getD importedWorkspaceName, args[1]?.getD "") }
  b.pushIf opens .workspace

/-- An argument that may be left out, by itself or by being empty. -/
def optional (args : List String) (i : Nat) : Option String :=
  match args[i]? with
  | some a => if a = "" then none else some a
  | none => none

def tagsAt (args : List String) (i : Nat) : List String :=
  match args[i]? with
  | some a => splitTags a
  | none => []

def onElement (ids : IdSource) (b : Builder) (opens : Bool) (identifier : Option (List Char)) (kind : ElementKind)
    (name rest : List Char) : Builder :=
  let id := ids b.drawn
  let args := quotedArguments rest
  let technology := if kind.hasTechnology then optional args 1 else none
  let tags := tagsAt args (if kind.hasTechnology then 2 else 1)
  let bare := match identifier with
    | some cs => String.ofList cs
    | none => "_" ++ firstChars 8 id
  let qualified := b.qualify bare
  let e : PendingElement :=
    { id, identifier := qualified, kind, name := String.ofList (unescape name), description := args[0]?.getD ""
      technology, parentId := b.parentId, tags := tags.filter (· != externalTag)
      isExternal := tags.contains externalTag }
  { b with
    table := b.table.register bare qualified id
    elements := b.elements ++ [e]
    drawn := b.drawn + 1
    stack := if opens then .element qualified id :: b.stack else b.stack }

def onGroup (ids : IdSource) (b : Builder) (opens : Bool) (name : List Char) : Builder :=
  let id := ids b.drawn
  let e : PendingElement :=
    { id, identifier := "group_" ++ firstChars 4 id, kind := .group, name := String.ofList name
      parentId := b.parentId }
  { b with
    elements := b.elements ++ [e]
    drawn := b.drawn + 1
    stack := if opens then .group id :: b.stack else b.stack }

/-- The source as a reference; none if it is the enclosing element and there is none. -/
def sourceOf (b : Builder) : Option (List Char) → Option String
  | none => b.owner?
  | some cs => if cs = selfReference then b.owner? else some (String.ofList cs)

def targetOf (b : Builder) (target : List Char) : String :=
  if target = selfReference then b.owner?.getD (String.ofList target) else String.ofList target

def noSourceWarning (line : Nat) : String :=
  "Line " ++ natText line ++ ": relationship without a source outside an element block"

def onRelationship (b : Builder) (line : Nat) (source : Option (List Char)) (target rest : List Char) : Builder :=
  match b.sourceOf source with
  | none => b.warn (noSourceWarning line)
  | some source =>
    let args := quotedArguments rest
    let r : PendingRelationship :=
      { source, target := b.targetOf target, description := args[0]?.getD "", technology := optional args 1
        tags := tagsAt args 2, line }
    { b with relationships := b.relationships ++ [r] }

def onView (ids : IdSource) (b : Builder) (opens : Bool) (line : Nat) (kind : ViewKind)
    (anchor : Option (List Char)) (rest : List Char) : Builder :=
  let args := quotedArguments rest
  let name := args[0]?.getD ""
  let key := sanitizeKeyText name
  let key := if key = "" then kind.keyword ++ "-" ++ natText (b.views.length + 1) else key
  let isRoot := kind == .systemLandscape && !b.views.any (·.view.id == landscapeId)
  let view : View :=
    { id := if isRoot then landscapeId else ids b.drawn, key, kind, name, description := args[1]?.getD "" }
  { b with
    views := b.views ++ [{ view, anchor := anchor.map String.ofList, line }]
    drawn := b.drawn + 1
    stack := if opens then .view :: b.stack else b.stack }

def recordPosition (b : Builder) (identifier : String) (x y : Numeral) : Builder :=
  { b with positions := Positions.record b.positions b.table identifier ⟨x.value, y.value⟩ }

def onPosition (b : Builder) (x y : Numeral) : Builder :=
  match b.stack with
  | .viewElement identifier :: _ => b.recordPosition identifier x y
  | _ => b

/-- The views with the last one's name replaced. -/
def renameLast (name : String) : List PendingView → List PendingView
  | [] => []
  | [v] => [{ v with view := { v.view with name } }]
  | v :: vs => v :: renameLast name vs

def onViewTitle (b : Builder) (title : List Char) : Builder :=
  match b.stack with
  | .view :: _ => { b with views := renameLast (String.ofList (unescape title)) b.views }
  | _ => b

def handle (ids : IdSource) (b : Builder) (s : Statement) : Clause → Builder
  | .close => { b with stack := b.stack.tail }
  | .workspace rest => b.onWorkspace s.opens rest
  | .model => b.push .model
  | .views => b.push .views
  | .styles => b.push .styles
  | .element identifier kind name rest => b.onElement ids s.opens identifier kind name rest
  | .group name => b.onGroup ids s.opens name
  | .relationship source target rest => b.onRelationship s.line source target rest
  | .view kind anchor rest => b.onView ids s.opens s.line kind anchor rest
  | .viewElement identifier => b.push (.viewElement (String.ofList identifier))
  | .elementPosition identifier x y => b.recordPosition (String.ofList identifier) x y
  | .position x y => b.onPosition x y
  | .viewTitle title => b.onViewTitle title
  | .unknown => b.pushIf s.opens .block

/-- Takes in one statement. -/
def feed (ids : IdSource) (b : Builder) (s : Statement) : Builder :=
  if s.isClose then { b with stack := b.stack.tail }
  else if b.isSkipping then b.pushIf s.opens .block
  else b.handle ids s (classify s b.inViews)

def feedAll (ids : IdSource) (b : Builder) (statements : List Statement) : Builder :=
  statements.foldl (feed ids) b

/-! ## What becomes of a statement -/

section

variable {b : Builder} {s : Statement}

theorem feed_close (ids : IdSource) (b : Builder) (close : s.isClose = true) :
    b.feed ids s = { b with stack := b.stack.tail } := by
  rw [feed, if_pos close]

theorem feed_skipped (ids : IdSource) (notClose : s.isClose = false) (skipping : b.isSkipping = true) :
    b.feed ids s = b.pushIf s.opens .block := by
  rw [feed, notClose, if_neg Bool.false_ne_true, if_pos skipping]

theorem feed_handled (ids : IdSource) (notClose : s.isClose = false) (reading : b.isSkipping = false) :
    b.feed ids s = b.handle ids s (classify s b.inViews) := by
  rw [feed, notClose, reading, if_neg Bool.false_ne_true, if_neg Bool.false_ne_true]

end

end Builder

end Blueprint.Dsl
