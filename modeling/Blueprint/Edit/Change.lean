/-
  Blueprint.Edit.Change — the changes that can be made to a workspace (a constructor for each operation,
  from `set_workspace_info` to `delete_view`).

  A `Change` says what is to be done; `Workspace.apply` does it or gives the fault that forbids it. A
  new element, relationship or view gets the id that is given with it or the next one that is drawn,
  and the ids of views that come along are drawn after it.
-/

import Blueprint.Edit.Elements
import Blueprint.Edit.Relationships
import Blueprint.Edit.Views
import Blueprint.Schema.Model

namespace Blueprint

inductive Change where
  | setInfo (name description : Option String)
  | addElement (id : Option String) (draft : ElementDraft)
  | updateElement (id : String) (update : ElementUpdate)
  | renameElement (id newName : String)
  | deleteElement (id : String)
  | addRelationship (id : Option String) (draft : RelationshipDraft)
  | updateRelationship (id : String) (update : RelationshipUpdate)
  | deleteRelationship (id : String)
  | addView (id : Option String) (draft : ViewDraft)
  | updateView (id : String) (update : ViewUpdate)
  | renameView (id newName : String)
  | deleteView (id : String)
  deriving DecidableEq, Repr

/-- What a change added or changed, as it is afterwards. -/
inductive Subject where
  | nothing
  | element (e : Element)
  | relationship (r : Relationship)
  | view (v : View)
  deriving DecidableEq, Repr

namespace Subject

def toJson : Subject → Json
  | nothing => .null
  | element e => e.toJson
  | relationship r => r.toJson
  | view v => v.toJson

def ofElement? (e : Option Element) : Subject := e.elim nothing element

def ofRelationship? (r : Option Relationship) : Subject := r.elim nothing relationship

def ofView? (v : Option View) : Subject := v.elim nothing view

end Subject

/-- The workspace after a change, what the change was about, and the count of ids drawn after it. -/
structure Outcome where
  workspace : Workspace
  subject : Subject := .nothing
  drawn : Nat
  deriving DecidableEq, Repr

namespace Workspace

def setInfo (ws : Workspace) (name description : Option String) : Workspace :=
  { ws with name := name.getD ws.name, description := description.getD ws.description }

/-- The element in the place where the first one with an id was. -/
def elementInPlaceOf (before after : Workspace) (id : String) : Option Element :=
  (before.elements.findIdx? (·.id == id)).bind (after.elements[·]?)

/-- The view in the place where the first one with an id was. -/
def viewInPlaceOf (before after : Workspace) (id : String) : Option View :=
  (before.views.findIdx? (·.id == id)).bind (after.views[·]?)

def apply (ids : IdSource) (drawn : Nat) (ws : Workspace) : Change → Except Fault Outcome
  | .setInfo name description => .ok { workspace := ws.setInfo name description, drawn }
  | .addElement given draft => do
    let (id, drawn) := ids.choose drawn given
    let (workspace, drawn) ← ws.addElement ids drawn (draft.withId id)
    return { workspace, subject := .element (draft.withId id), drawn }
  | .updateElement id update => do
    let workspace ← ws.updateElement id update
    return { workspace, subject := .ofElement? (workspace.element? id), drawn }
  | .renameElement id newName => do
    let workspace ← ws.renameElement id newName
    return { workspace, subject := .ofElement? (ws.elementInPlaceOf workspace id), drawn }
  | .deleteElement id => do
    return { workspace := ← ws.deleteElement id, drawn }
  | .addRelationship given draft => do
    let (id, drawn) := ids.choose drawn given
    return { workspace := ← ws.addRelationship (draft.withId id), subject := .relationship (draft.withId id), drawn }
  | .updateRelationship id update => do
    let workspace ← ws.updateRelationship id update
    return { workspace, subject := .ofRelationship? (workspace.relationship? id), drawn }
  | .deleteRelationship id => do
    return { workspace := ← ws.deleteRelationship id, drawn }
  | .addView given draft => do
    let (id, drawn) := ids.choose drawn given
    return { workspace := ← ws.addView (draft.withId id), subject := .view (draft.withId id), drawn }
  | .updateView id update => do
    let workspace ← ws.updateView id update
    return { workspace, subject := .ofView? (workspace.view? id), drawn }
  | .renameView id newName => do
    let workspace ← ws.renameView id newName
    return { workspace, subject := .ofView? (ws.viewInPlaceOf workspace id), drawn }
  | .deleteView id => do
    return { workspace := ← ws.deleteView id, drawn }

end Workspace

end Blueprint
