/-
  Blueprint.Edit.Relationships — changing the relationships of a workspace (`add_relationship`,
  `update_relationship`, `delete_relationship`).

  Both ends of a relationship that is added, and an end that is changed, must be elements that exist
  and are no groups.
-/

import Blueprint.Fault
import Blueprint.Model.Workspace

namespace Blueprint

/-- New values for some fields of a relationship. -/
structure RelationshipUpdate where
  id : Option String := none
  sourceId : Option String := none
  targetId : Option String := none
  description : Option String := none
  /-- May take the technology away. -/
  technology : Option (Option String) := none
  kind : Option RelationshipKind := none
  tags : Option (List String) := none
  deriving DecidableEq, Repr

def RelationshipUpdate.apply (u : RelationshipUpdate) (r : Relationship) : Relationship :=
  { id := u.id.getD r.id
    sourceId := u.sourceId.getD r.sourceId
    targetId := u.targetId.getD r.targetId
    description := u.description.getD r.description
    technology := u.technology.getD r.technology
    kind := u.kind.getD r.kind
    tags := u.tags.getD r.tags }

/-- The description of a relationship that is not given any. -/
def usualRelationshipDescription : String := "Uses"

namespace Workspace

def requireRelationship (ws : Workspace) (id : String) : Except Fault Relationship :=
  match ws.relationship? id with
  | some r => .ok r
  | none => .error (.relationshipNotFound id)

def checkEndpoint (ws : Workspace) (id : String) : Except Fault Unit :=
  match ws.element? id with
  | some e => if e.kind = .group then .error (.groupAsEndpoint e.name) else .ok ()
  | none => .error (.endpointMissing id)

def addRelationship (ws : Workspace) (r : Relationship) : Except Fault Workspace := do
  ws.checkEndpoint r.sourceId
  ws.checkEndpoint r.targetId
  return { ws with relationships := ws.relationships ++ [r] }

def updateRelationship (ws : Workspace) (id : String) (u : RelationshipUpdate) : Except Fault Workspace := do
  let r ← ws.requireRelationship id
  if let some source := u.sourceId then ws.checkEndpoint source
  if let some target := u.targetId then ws.checkEndpoint target
  return { ws with relationships := ws.relationships.map fun x => if x.id = id then u.apply r else x }

def deleteRelationship (ws : Workspace) (id : String) : Except Fault Workspace := do
  let _ ← ws.requireRelationship id
  return { ws with relationships := ws.relationships.filter (·.id != id) }

end Workspace

end Blueprint
