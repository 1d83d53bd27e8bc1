/-
  Blueprint.Session.Storage — opening and saving (`open_workspace` and `save_workspace` of
  `WorkspaceManager`).

  The suffix of a file decides whether it holds a document or JSON; any other is refused. A file that
  is opened takes the place of the open workspace. A file that is saved becomes the session's own, and
  the directories that it stands in are made.
-/

import Blueprint.Json.Printer
import Blueprint.Json.Reader
import Blueprint.Session.Memory
import Blueprint.Storage.Files

namespace Blueprint.Session

/-- Reads JSON text as a workspace; what does not fit it is a fault of the file. -/
def readJson (ids : IdSource) (drawn : Nat) (p : Path) (text : String) : Except Failure (Workspace × Nat) :=
  match Json.read? text with
  | none => .error (.fault (.invalidFile p.text))
  | some j =>
    match Workspace.read ids drawn j with
    | .error (.schema _) => .error (.fault (.invalidFile p.text))
    | r => r

/-- What a file says: a workspace, the warnings, and the count of ids drawn after that. -/
def contents (ids : IdSource) (drawn : Nat) (p : Path) (text : String) : Except Failure (Workspace × List String × Nat) :=
  if p.isDocument then
    match Dsl.parse ids drawn text with
    | .ok d => .ok (d.workspace, d.warnings, d.drawn)
    | .error f => .error (.fault f)
  else if p.isJson then (readJson ids drawn p text).map fun r => (r.1, [], r.2)
  else .error (.fault (.unsupportedFile p.kindShown))

/-- The session with a file opened; also the count of ids drawn after that. -/
def openFile (ids : IdSource) (drawn : Nat) (files : Files) (s : Session) (p : Path) : Except Failure (Session × Nat) :=
  match files.has p with
  | .error a => .error (.accident a)
  | .ok false => .error (.fault (.fileNotFound p.text))
  | .ok true =>
    match files.read p with
    | .error a => .error (.accident a)
    | .ok text => do
      let (ws, warnings, drawn) ← contents ids drawn p text
      return ({ s with warnings }.replace ws.withSomeView (some p), drawn)

/-- The text under which a workspace is saved. -/
def saved (l : Overlaid) (p : Path) : Except Failure String :=
  if p.isDocument then
    match l.document with
    | .ok text => .ok text
    | .error a => .error (.accident a)
  else if p.isJson then .ok (l.toJson.print .indented)
  else .error (.fault (.unsupportedFile p.kindShown))

/-- Where to save: in the place that is asked for, or in the session's own. -/
def destination (s : Session) (asked : Option String) : Except Fault Path :=
  match asked.filter (· != "") with
  | some text => .ok (.ofText text)
  | none =>
    match s.path with
    | some p => .ok p
    | none => .error .noFilePath

/-- Saves the open workspace with what lies over it. The files after that, and the session and the path
if all went well; a save that fails may leave directories and an empty file behind. -/
def saveFile (files : Files) (s : Session) (asked : Option String) (overlay : Overlay := {}) :
    Files × Except Failure (Session × Path) :=
  match s.requireWorkspace with
  | .error f => (files, .error (.fault f))
  | .ok workspace =>
    match s.destination asked with
    | .error f => (files, .error (.fault f))
    | .ok p =>
      match saved { workspace, overlay } p with
      | .error e => (files, .error e)
      | .ok text =>
        match files.save p text with
        | (files, .error a) => (files, .error (.accident a))
        | (files, .ok ()) => (files, .ok ({ s with path := some p, isDirty := false }, p))

end Blueprint.Session
