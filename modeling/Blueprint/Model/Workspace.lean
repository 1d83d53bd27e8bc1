/-
  Blueprint.Model.Workspace — the model: elements, relationships, views (`Element`, `Relationship`,
  `View`, `Workspace`; `new_workspace`, `load_workspace`).

  The elements of a workspace form a forest through their parents' ids; relationships are directed
  edges between element ids; a view shows a part of the model and may be anchored on an element. All
  three are kept in the order in which they were added. A workspace is not assumed to be consistent:
  ids may repeat, parents and endpoints may be missing, parents may form a cycle.
-/

import Blueprint.Model.Kind
import Blueprint.Number.Binary64

namespace Blueprint

/-- The top left corner of an element on the canvas. -/
structure Position where
  x : Binary64
  y : Binary64
  deriving DecidableEq, Repr

def Position.origin : Position := ⟨.zero, .zero⟩

structure Size where
  width : Binary64
  height : Binary64
  deriving DecidableEq, Repr

/-- An element but for its id. -/
structure ElementDraft where
  kind : ElementKind
  name : String
  description : String := ""
  technology : Option String := none
  tags : List String := []
  /-- The enclosing element; none at the top. -/
  parentId : Option String := none
  isExternal : Bool := false
  position : Position := .origin
  size : Option Size := none
  deriving DecidableEq, Repr

structure Element extends ElementDraft where
  id : String
  deriving DecidableEq, Repr

/-- A relationship but for its id. -/
structure RelationshipDraft where
  sourceId : String
  targetId : String
  description : String := ""
  technology : Option String := none
  kind : RelationshipKind := .uses
  tags : List String := []
  deriving DecidableEq, Repr

structure Relationship extends RelationshipDraft where
  id : String
  deriving DecidableEq, Repr

/-- A view but for its id. -/
structure ViewDraft where
  key : String
  kind : ViewKind
  /-- The anchor of context and container views. -/
  softwareSystemId : Option String := none
  /-- The anchor of component views. -/
  containerId : Option String := none
  name : String := ""
  description : String := ""
  deriving DecidableEq, Repr

structure View extends ViewDraft where
  id : String
  deriving DecidableEq, Repr

def ElementDraft.withId (draft : ElementDraft) (id : String) : Element := { draft with id }

def RelationshipDraft.withId (draft : RelationshipDraft) (id : String) : Relationship := { draft with id }

def ViewDraft.withId (draft : ViewDraft) (id : String) : View := { draft with id }

/-- The element that the view is about. -/
def View.anchorId (v : View) : Option String :=
  if v.kind = .component then v.containerId else v.softwareSystemId

structure Workspace where
  name : String
  description : String
  elements : List Element := []
  relationships : List Relationship := []
  views : List View := []
  deriving DecidableEq, Repr

/-- Where fresh ids come from: the n-th id that is drawn, counted from zero. -/
abbrev IdSource := Nat → String

namespace IdSource

/-- The id that is given, or the next one; and how many ids are drawn after that. -/
def choose (ids : IdSource) (drawn : Nat) : Option String → String × Nat
  | some id => (id, drawn)
  | none => (ids drawn, drawn + 1)

/-- Completes drafts one after the other, drawing an id for each that gives none. -/
def complete {α β : Type} (ids : IdSource) (withId : α → String → β) (drawn : Nat) :
    List (Option String × α) → List β × Nat
  | [] => ([], drawn)
  | (given, draft) :: rest =>
    let (id, n) := ids.choose drawn given
    let (done, n) := ids.complete withId n rest
    (withId draft id :: done, n)

end IdSource

/-! ## Names that are known everywhere -/

def defaultWorkspaceName : String := "Untitled Workspace"

def defaultWorkspaceDescription : String := "A new C4 model workspace"

def landscapeId : String := "landscape"

/-- The root view that every workspace starts from. -/
def landscapeView (description : String) : View :=
  { id := landscapeId, key := landscapeId, kind := .systemLandscape, name := "System Landscape", description }

def landscapeDescription : String := "The system landscape view for the workspace."

namespace Workspace

/-- An empty workspace with its root view. -/
def new (name description : String) : Workspace :=
  { name, description, views := [landscapeView landscapeDescription] }

/-- A workspace that is opened has at least one view. -/
def withSomeView (ws : Workspace) : Workspace :=
  if ws.views.isEmpty then { ws with views := [landscapeView landscapeDescription] } else ws

def element? (ws : Workspace) (id : String) : Option Element := ws.elements.find? (·.id == id)

def relationship? (ws : Workspace) (id : String) : Option Relationship := ws.relationships.find? (·.id == id)

def view? (ws : Workspace) (id : String) : Option View := ws.views.find? (·.id == id)

/-- The last element with an id; it decides what an id stands for where ids repeat. -/
def lastElement? (elements : List Element) (id : String) : Option Element := elements.reverse.find? (·.id == id)

def elementIds (ws : Workspace) : List String := ws.elements.map (·.id)

/-- The direct children of an element, or the elements at the top. -/
def childrenOf (ws : Workspace) (parent : Option String) : List Element :=
  ws.elements.filter (·.parentId == parent)

/-! ## Small facts -/

theorem views_withSomeView_ne_nil (ws : Workspace) : ws.withSomeView.views ≠ [] := by
  unfold withSomeView
  split
  · exact List.cons_ne_nil _ _
  · next some => simpa using some

end Workspace

end Blueprint
