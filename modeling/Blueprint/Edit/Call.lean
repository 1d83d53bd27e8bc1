/-
  Blueprint.Edit.Call — changes asked for by name (`add_element`, `rename_view` and all the other
  operations, called with named arguments).

  An operation is called by its name with named arguments that may be any JSON. The names must be those
  that the operation takes. What it looks up is looked up first, an id that is no text naming nothing;
  then the rest is fitted to the model.
-/

import Blueprint.Json.Shown
import Blueprint.Schema.Update

namespace Blueprint

open Check

/-! ## Names of arguments -/

structure Signature where
  required : List String := []
  optional : List String := []
  /-- Whether it takes any other argument, too. -/
  others : Bool := false

def Signature.accepts (s : Signature) (args : Json.Fields) : Bool :=
  s.required.all (Json.Fields.has args) &&
    (s.others || args.all fun a => s.required.contains a.1 || s.optional.contains a.1)

def editSignature? : String → Option Signature
  | "new_workspace" | "set_workspace_info" => some { optional := ["name", "description"] }
  | "load_workspace" => some {}
  | "add_element" => some { required := ["kind"], others := true }
  | "update_element" => some { required := ["element_id"], others := true }
  | "move_element" => some { required := ["element_id", "x", "y"] }
  | "rename_element" => some { required := ["element_id", "new_name"] }
  | "delete_element" => some { required := ["element_id"] }
  | "add_relationship" => some { required := ["source_id", "target_id"], others := true }
  | "update_relationship" => some { required := ["relationship_id"], others := true }
  | "delete_relationship" => some { required := ["relationship_id"] }
  | "add_view" =>
    some { required := ["kind", "key"], optional := ["name", "description", "software_system_id", "container_id"] }
  | "update_view" => some { required := ["view_id"], others := true }
  | "rename_view" => some { required := ["view_id", "new_name"] }
  | "delete_view" => some { required := ["view_id"] }
  | _ => none

/-! ## Arguments -/

def argument (args : Json.Fields) (name : String) : Json := (Json.Fields.get? args name).getD .null

/-- An argument that says something. -/
def filled? (args : Json.Fields) (name : String) : Option Json :=
  (Json.Fields.get? args name).filter (!·.isVoid)

/-- An id that is given by a text; any other value names nothing. -/
def idArgument (args : Json.Fields) (name : String) (unknown : String → Fault) : Except Failure String :=
  match argument args name with
  | .str id => .ok id
  | j => .error (.fault (unknown j.shown))

def textArgument (args : Json.Fields) (name : String) : Except Failure String :=
  match argument args name with
  | .str s => .ok s
  | _ => .error (.accident .noFields)

def optionalText (args : Json.Fields) (name : String) : Except Failure (Option String) :=
  (optional args name none (nullable text)).toExcept

def wordArgument {α : Type} (ofKeyword? : String → Option α) (args : Json.Fields) (name : String) : Except Failure α :=
  match (argument args name).asString?.bind ofKeyword? with
  | some a => .ok a
  | none => .error (.accident .unknownWord)

/-- The key that a value asks for; a value that says nothing asks for the empty one. -/
def keyArgument (j : Json) : Except Failure String :=
  if j.isVoid then .ok ""
  else match j with
    | .str s => .ok s
    | _ => .error (.accident .wrongArguments)

def faulty {α : Type} : Except Fault α → Except Failure α
  | .ok a => .ok a
  | .error f => .error (.fault f)

/-! ## Operations -/

namespace Workspace

/-- An element that an argument names, if it names any. -/
def checkNamed (args : Json.Fields) (name : String) (unknown : String → Fault) (check : String → Except Fault Unit) :
    Except Failure Unit :=
  match Json.Fields.get? args name with
  | none => .ok ()
  | some (.str id) => faulty (check id)
  | some j => .error (.fault (unknown j.shown))

/-- As `checkNamed`, null naming nothing either. -/
def checkNamedOrNull (args : Json.Fields) (name : String) (unknown : String → Fault)
    (check : String → Except Fault Unit) : Except Failure Unit :=
  match argument args name with
  | .null => .ok ()
  | _ => checkNamed args name unknown check

def exists? (ws : Workspace) (id : String) : Except Fault Unit := do let _ ← ws.requireElement id

/-- The change that adds an element. -/
def elementAddition (ws : Workspace) (args : Json.Fields) : Except Failure Change := do
  let kind ← wordArgument ElementKind.ofKeyword? args "kind"
  checkNamedOrNull args "parent_id" .elementNotFound ws.exists?
  let name := (filled? args "name").getD (.str kind.usualName)
  let position := (filled? args "position").getD Position.origin.toJson
  let fields := args.overlay [("name", name), ("position", position), ("parent_id", argument args "parent_id")]
  let (id, draft) ← (identified fields (ElementDraft.ofFields .notObject fields)).toExcept
  return .addElement id (if Json.Fields.has args "size" then draft else { draft with size := kind.usualSize })

def elementUpdate (ws : Workspace) (args : Json.Fields) : Except Failure Change := do
  let id ← idArgument args "element_id" .elementNotFound
  let _ ← faulty (ws.requireElement id)
  match Json.Fields.get? args "id" with
  | some (.str given) => if given = id then pure () else throw (.fault .idIsFixed)
  | some _ => throw (.fault .idIsFixed)
  | none => pure ()
  checkNamedOrNull args "parent_id" .elementNotFound (ws.checkNesting id)
  let update ← (ElementUpdate.ofFields args).toExcept
  return .updateElement id update

def elementMove (args : Json.Fields) : Except Failure Change := do
  let position ← (Position.mk <$> required args "x" number <*> required args "y" number : Check Position).toExcept
  let id ← idArgument args "element_id" .elementNotFound
  return .updateElement id { position := some position }

def elementRenaming (ws : Workspace) (args : Json.Fields) : Except Failure Change := do
  let id ← idArgument args "element_id" .elementNotFound
  let _ ← faulty (ws.requireElement id)
  return .renameElement id (← textArgument args "new_name")

def relationshipAddition (ws : Workspace) (args : Json.Fields) : Except Failure Change := do
  checkNamed args "source_id" .endpointMissing ws.checkEndpoint
  checkNamed args "target_id" .endpointMissing ws.checkEndpoint
  let description := (Json.Fields.get? args "description").getD (.str usualRelationshipDescription)
  let fields := args.set "description" description
  let (id, draft) ← (identified fields (RelationshipDraft.ofFields fields)).toExcept
  return .addRelationship id draft

def relationshipUpdate (ws : Workspace) (args : Json.Fields) : Except Failure Change := do
  let id ← idArgument args "relationship_id" .relationshipNotFound
  let _ ← faulty (ws.requireRelationship id)
  checkNamed args "source_id" .endpointMissing ws.checkEndpoint
  checkNamed args "target_id" .endpointMissing ws.checkEndpoint
  let update ← (RelationshipUpdate.ofFields args).toExcept
  return .updateRelationship id update

def viewAddition (ws : Workspace) (args : Json.Fields) : Except Failure Change := do
  let anchorExists (id : String) : Except Fault Unit := ws.checkAnchor (some id)
  checkNamedOrNull args "software_system_id" .endpointMissing anchorExists
  checkNamedOrNull args "container_id" .endpointMissing anchorExists
  let key ← keyArgument (argument args "key")
  let _ ← wordArgument ViewKind.ofKeyword? args "kind"
  let name := (filled? args "name").getD (argument args "key")
  let draft ← (ViewDraft.ofFields (args.overlay [("key", .str (viewKeyFor key)), ("name", name)])).toExcept
  return .addView none draft

def viewUpdate (ws : Workspace) (args : Json.Fields) : Except Failure Change := do
  let id ← idArgument args "view_id" .viewNotFound
  let _ ← faulty (ws.requireView id)
  let args ← match Json.Fields.get? args "key" with
    | some j => do pure (args.set "key" (.str (← keyArgument j)))
    | none => pure args
  let update ← (ViewUpdate.ofFields args).toExcept
  return .updateView id update

def viewRenaming (ws : Workspace) (args : Json.Fields) : Except Failure Change := do
  let id ← idArgument args "view_id" .viewNotFound
  let _ ← faulty (ws.requireView id)
  return .renameView id (← textArgument args "new_name")

/-- The change that a call asks for. -/
def changeOf (ws : Workspace) (name : String) (args : Json.Fields) : Except Failure Change :=
  match name with
  | "set_workspace_info" => do return .setInfo (← optionalText args "name") (← optionalText args "description")
  | "add_element" => ws.elementAddition args
  | "update_element" => ws.elementUpdate args
  | "move_element" => elementMove args
  | "rename_element" => ws.elementRenaming args
  | "delete_element" => do return .deleteElement (← idArgument args "element_id" .elementNotFound)
  | "add_relationship" => ws.relationshipAddition args
  | "update_relationship" => ws.relationshipUpdate args
  | "delete_relationship" => do return .deleteRelationship (← idArgument args "relationship_id" .relationshipNotFound)
  | "add_view" => ws.viewAddition args
  | "update_view" => ws.viewUpdate args
  | "rename_view" => ws.viewRenaming args
  | "delete_view" => do return .deleteView (← idArgument args "view_id" .viewNotFound)
  | _ => .error (.accident .wrongArguments)

/-- A new workspace by its arguments. -/
def newOf (args : Json.Fields) : Except Failure Workspace :=
  (Workspace.new <$> optional args "name" defaultWorkspaceName text
    <*> optional args "description" defaultWorkspaceDescription text : Check Workspace).toExcept

def call (ids : IdSource) (drawn : Nat) (ws : Workspace) (name : String) (args : Json.Fields) :
    Except Failure Outcome := do
  match editSignature? name with
  | some signature =>
    if !signature.accepts args || Json.Fields.has args "workspace" then throw (.accident .wrongArguments)
  | none => throw (.accident .noFields)
  match name with
  | "new_workspace" => return { workspace := ← newOf args, drawn }
  | "load_workspace" => return { workspace := ws.withSomeView, drawn }
  | _ =>
    let change ← ws.changeOf name args
    faulty (ws.apply ids drawn change)

end Workspace

end Blueprint
