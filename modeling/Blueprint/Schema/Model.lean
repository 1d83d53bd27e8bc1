/-
  Blueprint.Schema.Model — the model as JSON (`Workspace.to_json_dict`, `Workspace.from_json_dict`,
  `_rename_legacy_keys`).

  Every part of a workspace is an object with a field for each of its own, written in a fixed order.
  Reading fills in what may be left out, takes older names of fields where the present one is absent,
  and passes over fields it does not know. An id may be left out; then it is drawn.

  A whole workspace is read in one of two ways. The strict one lists every misfit with its full place.
  The lenient one stops at the first item that does not fit, takes anything that can be gone through
  for a list, and leaves a description that is not given empty.
-/

import Blueprint.Model.Workspace
import Blueprint.Schema.Value

namespace Blueprint

open Check

/-! ## Writing -/

def Json.optionalText (s : Option String) : Json := .ofOption .str s

def Position.toJson (p : Position) : Json := .obj [("x", .real p.x), ("y", .real p.y)]

def Size.toJson (s : Size) : Json := .obj [("width", .real s.width), ("height", .real s.height)]

def Element.toJson (e : Element) : Json :=
  .obj [("id", .str e.id), ("kind", .str e.kind.keyword), ("name", .str e.name), ("description", .str e.description),
    ("technology", .optionalText e.technology), ("tags", .strings e.tags), ("parent_id", .optionalText e.parentId),
    ("is_external", .bool e.isExternal), ("position", e.position.toJson), ("size", .ofOption Size.toJson e.size)]

def Relationship.toJson (r : Relationship) : Json :=
  .obj [("id", .str r.id), ("source_id", .str r.sourceId), ("target_id", .str r.targetId),
    ("description", .str r.description), ("technology", .optionalText r.technology), ("kind", .str r.kind.keyword),
    ("tags", .strings r.tags)]

def View.toJson (v : View) : Json :=
  .obj [("id", .str v.id), ("key", .str v.key), ("kind", .str v.kind.keyword),
    ("software_system_id", .optionalText v.softwareSystemId), ("container_id", .optionalText v.containerId),
    ("name", .str v.name), ("description", .str v.description)]

def Workspace.toJson (ws : Workspace) : Json :=
  .obj [("name", .str ws.name), ("description", .str ws.description), ("elements", .arr (ws.elements.map Element.toJson)),
    ("relationships", .arr (ws.relationships.map Relationship.toJson)), ("views", .arr (ws.views.map View.toJson))]

/-! ## Reading the parts -/

def Position.ofFields (fields : Json.Fields) : Check Position :=
  Position.mk <$> optional fields "x" .zero number <*> optional fields "y" .zero number

def Size.ofFields (fields : Json.Fields) : Check Size :=
  Size.mk <$> required fields "width" number <*> required fields "height" number

/-- An id, if there is one, and the draft that it belongs to. -/
abbrev Identified (α : Type) := Option String × α

def identified {α : Type} (fields : Json.Fields) (draft : Check α) : Check (Identified α) :=
  Prod.mk <$> present fields "id" text <*> draft

def ElementDraft.ofFields (otherwise : Misfit) (fields : Json.Fields) : Check ElementDraft :=
  ElementDraft.mk <$> required fields "kind" (word ElementKind.ofKeyword?) "type"
    <*> required fields "name" text
    <*> optional fields "description" "" text
    <*> optional fields "technology" none (nullable text)
    <*> optional fields "tags" [] (list text)
    <*> optional fields "parent_id" none (nullable text) "parentId"
    <*> optional fields "is_external" false truth "isExternal"
    <*> optional fields "position" .origin (object otherwise Position.ofFields)
    <*> optional fields "size" none (nullable (object otherwise Size.ofFields))

def RelationshipDraft.ofFields (fields : Json.Fields) : Check RelationshipDraft :=
  RelationshipDraft.mk <$> required fields "source_id" text "sourceId"
    <*> required fields "target_id" text "targetId"
    <*> optional fields "description" "" text
    <*> optional fields "technology" none (nullable text)
    <*> optional fields "kind" .uses (word RelationshipKind.ofKeyword?) "type"
    <*> optional fields "tags" [] (list text)

def ViewDraft.ofFields (fields : Json.Fields) : Check ViewDraft :=
  ViewDraft.mk <$> required fields "key" text
    <*> required fields "kind" (word ViewKind.ofKeyword?) "type"
    <*> optional fields "software_system_id" none (nullable text) "softwareSystemId"
    <*> optional fields "container_id" none (nullable text) "containerId"
    <*> optional fields "name" "" text
    <*> optional fields "description" "" text

def Position.read (j : Json) : Check Position := object .notObject Position.ofFields j

def Size.read (j : Json) : Check Size := object .notObject Size.ofFields j

def ElementDraft.read (otherwise : Misfit) (j : Json) : Check (Identified ElementDraft) :=
  object otherwise (fun fields => identified fields (ofFields otherwise fields)) j

def RelationshipDraft.read (otherwise : Misfit) (j : Json) : Check (Identified RelationshipDraft) :=
  object otherwise (fun fields => identified fields (ofFields fields)) j

def ViewDraft.read (otherwise : Misfit) (j : Json) : Check (Identified ViewDraft) :=
  object otherwise (fun fields => identified fields (ofFields fields)) j

/-! ## Reading a workspace -/

/-- A workspace whose parts may still lack ids. -/
structure WorkspaceDraft where
  name : String
  description : String
  elements : List (Identified ElementDraft)
  relationships : List (Identified RelationshipDraft)
  views : List (Identified ViewDraft)
  deriving DecidableEq, Repr

namespace WorkspaceDraft

/-- Draws the ids that are missing; also the count of ids drawn after that. -/
def complete (ids : IdSource) (drawn : Nat) (d : WorkspaceDraft) : Workspace × Nat :=
  let (elements, drawn) := ids.complete ElementDraft.withId drawn d.elements
  let (relationships, drawn) := ids.complete RelationshipDraft.withId drawn d.relationships
  let (views, drawn) := ids.complete ViewDraft.withId drawn d.views
  ({ name := d.name, description := d.description, elements, relationships, views }, drawn)

/-- Lists every misfit. -/
def readStrictly (otherwise : Misfit) : Json → Check WorkspaceDraft :=
  object otherwise fun fields =>
    WorkspaceDraft.mk <$> optional fields "name" defaultWorkspaceName text
      <*> optional fields "description" defaultWorkspaceDescription text
      <*> optional fields "elements" [] (list (ElementDraft.read otherwise))
      <*> optional fields "relationships" [] (list (RelationshipDraft.read otherwise))
      <*> optional fields "views" [] (list (ViewDraft.read otherwise))

/-- What can be gone through one by one: a list, a text by its characters, an object by its names. -/
def parts? : Json → Option (List Json)
  | .arr js => some js
  | .str s => some (s.toList.map fun c => .str (String.ofList [c]))
  | .obj fields => some (fields.map fun f => .str f.1)
  | _ => none

def readParts {α : Type} (fields : Json.Fields) (name : String) (read : Json → Check α) : Except Failure (List α) :=
  match (Json.Fields.get? fields name).elim (some []) parts? with
  | none => .error (.accident .notIterable)
  | some js => js.mapM fun j => (read j).toExcept

/-- Stops at the first misfit. -/
def read : Json → Except Failure WorkspaceDraft
  | .obj fields => do
    let elements ← readParts fields "elements" (ElementDraft.read .notObject)
    let relationships ← readParts fields "relationships" (RelationshipDraft.read .notObject)
    let views ← readParts fields "views" (ViewDraft.read .notObject)
    let make name description : WorkspaceDraft := { name, description, elements, relationships, views }
    (make <$> optional fields "name" defaultWorkspaceName text
      <*> optional fields "description" "" text : Check WorkspaceDraft).toExcept
  | _ => .error (.accident .noFields)

end WorkspaceDraft

/-- Reads a workspace up to the first misfit; also the count of ids drawn after that. -/
def Workspace.read (ids : IdSource) (drawn : Nat) (j : Json) : Except Failure (Workspace × Nat) :=
  (WorkspaceDraft.read j).map (·.complete ids drawn)

/-- Reads a workspace and lists every misfit; also the count of ids drawn after that. -/
def Workspace.readStrictly (otherwise : Misfit) (ids : IdSource) (drawn : Nat) (j : Json) : Check (Workspace × Nat) :=
  (WorkspaceDraft.readStrictly otherwise j).map (·.complete ids drawn)

end Blueprint
