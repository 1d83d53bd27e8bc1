/-
  Blueprint.Edit.Elements — changing the elements of a workspace (`add_element`, `update_element`,
  `move_element`, `rename_element`, `delete_element`).

  Every change gives a new workspace or the fault that forbids it. A parent that is asked for must
  exist, and no element is nested inside itself. A software system comes with a container view and a
  container with a component view. A renamed element gets an id made from its new name, and whatever
  refers to it follows in the same step. A deleted element takes along all that is nested in it, the
  relationships of these and the views that are about them.
-/

import Blueprint.Fault
import Blueprint.Identifier.Fresh
import Blueprint.Model.Descent
import Blueprint.View.Coverage

namespace Blueprint

/-- New values for some fields of an element. -/
structure ElementUpdate where
  kind : Option ElementKind := none
  name : Option String := none
  description : Option String := none
  /-- May take the technology away. -/
  technology : Option (Option String) := none
  tags : Option (List String) := none
  /-- May move the element to the top. -/
  parentId : Option (Option String) := none
  isExternal : Option Bool := none
  position : Option Position := none
  /-- May take the size away. -/
  size : Option (Option Size) := none
  deriving DecidableEq, Repr

def ElementUpdate.apply (u : ElementUpdate) (e : Element) : Element :=
  { e with
    kind := u.kind.getD e.kind
    name := u.name.getD e.name
    description := u.description.getD e.description
    technology := u.technology.getD e.technology
    tags := u.tags.getD e.tags
    parentId := u.parentId.getD e.parentId
    isExternal := u.isExternal.getD e.isExternal
    position := u.position.getD e.position
    size := u.size.getD e.size }

/-- The size that a group has unless another one is asked for. -/
def ElementKind.usualSize (kind : ElementKind) : Option Size :=
  if kind = .group then some ⟨.ofNat kind.defaultSize.1, .ofNat kind.defaultSize.2⟩ else none

/-- The name of an element that is not given any. -/
def ElementKind.usualName (kind : ElementKind) : String := "New " ++ kind.label

/-- The view that comes with a new element, and the count of ids drawn after that. -/
def drillDownViews (ids : IdSource) (drawn : Nat) (e : Element) : List View × Nat :=
  match e.kind with
  | .softwareSystem => ([containerViewFor e (ids drawn)], drawn + 1)
  | .container => ([componentViewFor e (ids drawn)], drawn + 1)
  | _ => ([], drawn)

/-! ## A new id for an element -/

/-- An id after `old` became `new`. -/
def rekey (old new id : String) : String := if id = old then new else id

def Element.rekeyed (old new newName : String) (e : Element) : Element :=
  if e.id = old then { e with id := new, name := newName }
  else if e.parentId = some old then { e with parentId := some new }
  else e

def Relationship.rekeyed (old new : String) (r : Relationship) : Relationship :=
  { r with sourceId := rekey old new r.sourceId, targetId := rekey old new r.targetId }

/-- A view follows by its anchors or, if the element is no anchor of it, by its deployment key. -/
def View.rekeyed (old new : String) (v : View) : View :=
  if v.softwareSystemId = some old ∨ v.containerId = some old then
    { v with softwareSystemId := v.softwareSystemId.map (rekey old new), containerId := v.containerId.map (rekey old new) }
  else if v.kind = .deployment ∧ v.key = deploymentViewKey old then { v with key := deploymentViewKey new }
  else v

namespace Workspace

def requireElement (ws : Workspace) (id : String) : Except Fault Element :=
  match ws.element? id with
  | some e => .ok e
  | none => .error (.elementNotFound id)

/-- What must hold of a new parent for an element: it exists, and is not the element or inside it. -/
def checkNesting (ws : Workspace) (id parent : String) : Except Fault Unit := do
  let _ ← ws.requireElement parent
  if parent = id ∨ parent ∈ ws.descendants (some id) then .error .nestedInItself else .ok ()

def addElement (ids : IdSource) (drawn : Nat) (ws : Workspace) (e : Element) : Except Fault (Workspace × Nat) := do
  if let some parent := e.parentId then let _ ← ws.requireElement parent
  let (views, drawn) := drillDownViews ids drawn e
  return ({ ws with elements := ws.elements ++ [e], views := ws.views ++ views }, drawn)

def replaceElement (ws : Workspace) (id : String) (e : Element) : Workspace :=
  { ws with elements := ws.elements.map fun x => if x.id = id then e else x }

def updateElement (ws : Workspace) (id : String) (u : ElementUpdate) : Except Fault Workspace := do
  let e ← ws.requireElement id
  if let some (some parent) := u.parentId then ws.checkNesting id parent
  return ws.replaceElement id (u.apply e)

/-- The id that an element gets with its new name. -/
def renamedId (ws : Workspace) (e : Element) (newName : String) : String :=
  elementIdentity e.kind newName ((ws.elements.filter (·.id != e.id)).map (·.id))

def rekeyed (ws : Workspace) (old new newName : String) : Workspace :=
  { ws with
    elements := ws.elements.map (Element.rekeyed old new newName)
    relationships := ws.relationships.map (Relationship.rekeyed old new)
    views := ws.views.map (View.rekeyed old new) }

def renameElement (ws : Workspace) (id newName : String) : Except Fault Workspace := do
  let e ← ws.requireElement id
  return ws.rekeyed id (ws.renamedId e newName) newName

/-- The ids that go with a deleted element. -/
def withDescendants (ws : Workspace) (id : String) : List String := id :: ws.descendants (some id)

/-- A view that is about one of the elements. -/
def isAbout (removed : List String) (v : View) : Bool :=
  v.softwareSystemId.any removed.contains || v.containerId.any removed.contains ||
    (v.kind == .deployment && (removed.map deploymentViewKey).contains v.key)

def without (ws : Workspace) (removed : List String) : Workspace :=
  { ws with
    elements := ws.elements.filter fun e => !removed.contains e.id
    relationships := ws.relationships.filter fun r => !removed.contains r.sourceId && !removed.contains r.targetId
    views := ws.views.filter fun v => !isAbout removed v }

def deleteElement (ws : Workspace) (id : String) : Except Fault Workspace := do
  let _ ← ws.requireElement id
  return ws.without (ws.withDescendants id)

end Workspace

end Blueprint
