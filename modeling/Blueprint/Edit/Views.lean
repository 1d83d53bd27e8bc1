/-
  Blueprint.Edit.Views — changing the views of a workspace (`add_view`, `update_view`, `rename_view`,
  `delete_view`).

  The anchors of a view that is added must exist. Keys consist of key characters. A renamed view gets
  an id and a key made from its new name, but the root view keeps its own, and the last view of a
  workspace cannot be deleted.
-/

import Blueprint.Fault
import Blueprint.Identifier.Fresh
import Blueprint.Model.Workspace

namespace Blueprint

/-- New values for some fields of a view. -/
structure ViewUpdate where
  id : Option String := none
  key : Option String := none
  kind : Option ViewKind := none
  /-- May take the anchor away. -/
  softwareSystemId : Option (Option String) := none
  /-- May take the anchor away. -/
  containerId : Option (Option String) := none
  name : Option String := none
  description : Option String := none
  deriving DecidableEq, Repr

/-- The key is made of what is asked for. -/
def ViewUpdate.apply (u : ViewUpdate) (v : View) : View :=
  { id := u.id.getD v.id
    key := (u.key.map sanitizeKeyText).getD v.key
    kind := u.kind.getD v.kind
    softwareSystemId := u.softwareSystemId.getD v.softwareSystemId
    containerId := u.containerId.getD v.containerId
    name := u.name.getD v.name
    description := u.description.getD v.description }

/-- The key that a view gets for the one that is asked for. -/
def viewKeyFor (asked : String) : String :=
  let key := sanitizeKeyText asked
  if key = "" then "view" else key

namespace Workspace

def requireView (ws : Workspace) (id : String) : Except Fault View :=
  match ws.view? id with
  | some v => .ok v
  | none => .error (.viewNotFound id)

def checkAnchor (ws : Workspace) (anchor : Option String) : Except Fault Unit :=
  match anchor with
  | some id => if (ws.element? id).isSome then .ok () else .error (.endpointMissing id)
  | none => .ok ()

def addView (ws : Workspace) (v : View) : Except Fault Workspace := do
  ws.checkAnchor v.softwareSystemId
  ws.checkAnchor v.containerId
  return { ws with views := ws.views ++ [v] }

def updateView (ws : Workspace) (id : String) (u : ViewUpdate) : Except Fault Workspace := do
  let v ← ws.requireView id
  return { ws with views := ws.views.map fun x => if x.id = id then u.apply v else x }

/-- The id and key that a view gets with its new name. -/
def renamedViewId (ws : Workspace) (id newName : String) : String :=
  viewIdentity newName ((ws.views.filter (·.id != id)).map (·.id))

def renameView (ws : Workspace) (id newName : String) : Except Fault Workspace := do
  let _ ← ws.requireView id
  let rename (v : View) : View :=
    if id = landscapeId then { v with name := newName }
    else
      let newId := ws.renamedViewId id newName
      { v with id := newId, key := newId, name := newName }
  return { ws with views := ws.views.map fun v => if v.id = id then rename v else v }

def deleteView (ws : Workspace) (id : String) : Except Fault Workspace := do
  let _ ← ws.requireView id
  if ws.views.length = 1 then .error .lastView
  else return { ws with views := ws.views.filter (·.id != id) }

end Workspace

end Blueprint
