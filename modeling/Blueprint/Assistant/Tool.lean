/-
  Blueprint.Assistant.Tool — the tools of an assistant (`c4_open`, `c4_add_element`, `c4_import_dsl` and
  the others, which all go through `api_request`).

  A tool is called by its name with named arguments and sends one message to the service. Its result
  is the body of the answer; a refusal is an error whose message repeats it. Arguments that the tool
  does not have, or that are missing, or that make no message are an accident.

  Proved: a tool that is refused leaves the session as it is (`session_of_toolError`).
-/

import Blueprint.Edit.Call
import Blueprint.Service.Serve

namespace Blueprint

/-- What a call of a tool may fail with. -/
inductive ToolFailure where
  | refused (message : String)
  /-- There is no message to send. -/
  | unsent (a : Accident)
  /-- The service has come to an accident; its answer has no body. -/
  | unanswered (a : Accident)
  deriving DecidableEq, Repr

namespace Tool

def signature? : String → Option Signature
  | "c4_get_workspace" | "c4_export_dsl" | "c4_validate" | "c4_undo" | "c4_redo" => some {}
  | "c4_new_workspace" => some { optional := ["name"] }
  | "c4_open" => some { required := ["file_path"] }
  | "c4_save" => some { optional := ["file_path"] }
  | "c4_import_dsl" | "c4_validate_dsl" => some { required := ["dsl"] }
  | "c4_add_element" =>
    some
      { required := ["kind", "name"]
        optional := ["description", "technology", "parent_id", "tags", "is_external", "x", "y"] }
  | "c4_update_element" =>
    some { required := ["element_id"], optional := ["description", "technology", "tags", "x", "y"] }
  | "c4_rename_element" => some { required := ["element_id", "name"] }
  | "c4_delete_element" => some { required := ["element_id"] }
  | "c4_add_relationship" =>
    some { required := ["source_id", "target_id"], optional := ["description", "technology"] }
  | "c4_delete_relationship" => some { required := ["relationship_id"] }
  | _ => none

/-! ## Bodies -/

/-- An argument, or what stands for it if it is left out. -/
def argumentOr (args : Json.Fields) (name : String) (usual : Json) : Json :=
  (Json.Fields.get? args name).getD usual

/-- Those of the arguments that are given and not null. -/
def given (args : Json.Fields) (names : List String) : Json.Fields :=
  (names.map fun name => (name, argument args name)).filter (!·.2.isNull)

/-- The arguments with these names, null if left out. -/
def body (args : Json.Fields) (names : List String) : Json :=
  .obj (names.map fun name => (name, argument args name))

def elementBody (args : Json.Fields) : Json :=
  .obj ([("kind", argument args "kind"), ("name", argument args "name"),
    ("description", argumentOr args "description" (.str "")), ("tags", (filled? args "tags").getD (.arr [])),
    ("is_external", argumentOr args "is_external" (.bool false)), ("x", argumentOr args "x" (.int 0)),
    ("y", argumentOr args "y" (.int 0))] ++ given args ["technology", "parent_id"])

/-- A position needs both coordinates. -/
def updateBody (args : Json.Fields) : Json :=
  let position : Json.Fields := given args ["x", "y"]
  .obj (given args ["description", "technology", "tags"] ++
    if position.length = 2 then [("position", .obj position)] else [])

def relationshipBody (args : Json.Fields) : Json :=
  .obj ([("source_id", argument args "source_id"), ("target_id", argument args "target_id"),
    ("description", argumentOr args "description" (.str usualRelationshipDescription))] ++ given args ["technology"])

/-! ## Messages -/

def send (method : Method) (path : String) (body : Option Json := none) : Except Accident Message :=
  Message.compose method ("/api/" ++ path) none body

/-- The address of something by the id in an argument. -/
def placeAt (collection : String) (args : Json.Fields) (name : String) : String :=
  collection ++ "/" ++ (argument args name).shown

def message (name : String) (args : Json.Fields) : Except Accident Message :=
  match name with
  | "c4_get_workspace" => send .get "workspace"
  | "c4_new_workspace" =>
    Message.compose .post "/api/workspace/new" ((filled? args "name").map fun name => .obj [("name", name)])
  | "c4_open" => send .post "workspace/open" (body args ["file_path"])
  | "c4_save" => send .post "workspace/save" (body args ["file_path"])
  | "c4_import_dsl" => send .post "dsl/import" (body args ["dsl"])
  | "c4_export_dsl" => send .get "dsl/export"
  | "c4_validate_dsl" => send .post "dsl/validate" (body args ["dsl"])
  | "c4_add_element" => send .post "elements" (elementBody args)
  | "c4_update_element" => send .patch (placeAt "elements" args "element_id") (updateBody args)
  | "c4_rename_element" => send .post (placeAt "elements" args "element_id" ++ "/rename") (body args ["name"])
  | "c4_delete_element" => send .delete (placeAt "elements" args "element_id")
  | "c4_add_relationship" => send .post "relationships" (relationshipBody args)
  | "c4_delete_relationship" => send .delete (placeAt "relationships" args "relationship_id")
  | "c4_validate" => send .get "validate"
  | "c4_undo" => send .post "undo"
  | _ => send .post "redo"

/-- The message of a tool that there is, with arguments that it takes. -/
def messageOf (name : String) (args : Json.Fields) : Except Accident Message :=
  match signature? name with
  | some signature => if signature.accepts args then message name args else .error .wrongArguments
  | none => .error .noFields

end Tool

namespace Desk

/-- What a tool makes of an answer. -/
def toolResult : Response → Except ToolFailure Json
  | .met body => .ok body
  | .refused r => .error (.refused ("API error: " ++ r.message))
  | .broken a => .error (.unanswered a)

/-- The desk after the call of a tool, and its result. -/
def callTool (ids : IdSource) (d : Desk) (name : String) (args : Json.Fields) : Desk × Except ToolFailure Json :=
  match Tool.messageOf name args with
  | .ok m => ((d.receive ids m).1, toolResult (d.receive ids m).2)
  | .error a => (d, .error (.unsent a))

/-! ## Small facts -/

theorem eq_refused_of_toolResult {r : Response} {message : String} (h : toolResult r = .error (.refused message)) :
    ∃ why, r = .refused why := by
  cases r with
  | met body => cases h
  | refused why => exact ⟨why, rfl⟩
  | broken a => cases h

theorem session_of_toolError {ids : IdSource} {d : Desk} {name message : String} {args : Json.Fields}
    (h : (d.callTool ids name args).2 = .error (.refused message)) :
    (d.callTool ids name args).1.session = d.session := by
  unfold callTool at h ⊢
  split
  · next m hm =>
    simp only [hm] at h
    obtain ⟨why, hwhy⟩ := eq_refused_of_toolResult h
    exact session_of_refused hwhy
  · rfl

end Desk

end Blueprint
