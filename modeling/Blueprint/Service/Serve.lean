/-
  Blueprint.Service.Serve — a session driven by requests (the routes of `create_app`, each on a
  `WorkspaceManager`).

  A request is met, and then there is a new desk and a body for the answer; or it is refused, or comes
  to an accident, and the desk stays as it is, but for what a file that could not be saved has left
  behind. A request may also have been met and its answer be impossible to send: the desk is then the
  new one.

  Proved: an answer that refuses leaves the session as it is (`session_of_refused`).
-/

import Blueprint.Service.Response
import Blueprint.Session.Desk
import Blueprint.Validation.Report

namespace Blueprint

/-- Why there is no body for an answer. -/
inductive Stop where
  | refused (r : Refusal)
  | broken (a : Accident)
  deriving DecidableEq, Repr

namespace Stop

def ofFailure : Failure → Stop
  | .fault f => refused (.fault f)
  | .schema issues => refused (.unasked (.misfits issues))
  | .accident a => broken a

/-- A file that cannot be written is a refusal. -/
def ofSaving : Failure → Stop
  | .accident (.fileTrouble trouble path) => refused (.notSaved trouble path)
  | e => ofFailure e

end Stop

namespace Desk

def attempt {α : Type} (r : Except Failure α) : Except Stop α := r.mapError .ofFailure

def permitted {α : Type} (r : Except Fault α) : Except Stop α := r.mapError fun f => .refused (.fault f)

/-- The body after one step through the history. -/
def afterStep (d : Desk) (s : Option Session) (nothing : String) : Desk × Json :=
  match s with
  | some s => (d.withSession s, .success [("workspace", .ofOption Workspace.toJson s.workspace)])
  | none => (d, .obj [("success", .bool false), ("message", .str nothing)])

/-- What is said of a change: the part that it was about; of new information, the whole workspace; of
something deleted, nothing. -/
def editFields (ws : Option Workspace) (change : Change) (subject : Subject) : Json.Fields :=
  match change, subject with
  | .setInfo .., _ => [("workspace", .ofOption Workspace.toJson ws)]
  | _, .element e => [("element", e.toJson)]
  | _, .relationship r => [("relationship", r.toJson)]
  | _, .view v => [("view", v.toJson)]
  | _, .nothing => []

def openWorkspaceFields (s : Session) : Json.Fields :=
  [("workspace", .ofOption Workspace.toJson s.workspace), ("warnings", .strings s.warnings)]

/-- Saves the open workspace. The desk after that, and the body of the answer. -/
def save (d : Desk) (asked : Option String) : Desk × Except Stop Json :=
  match d.session.saveFile d.files asked with
  | (files, .ok (session, path)) => ({ d with session, files }, .ok (.success [("file_path", .str path.text)]))
  | (files, .error e) => ({ d with files }, .error (.ofSaving e))

/-- The desk after a request is met, and the body of the answer. -/
def fulfil (ids : IdSource) (d : Desk) : Request → Except Stop (Desk × Json)
  | .health =>
    .ok (d, .obj [("status", .str "ok"), ("workspace_open", .bool d.session.workspace.isSome)])
  | .state => .ok (d, d.session.toJson)
  | .newWorkspace name =>
    let session := d.session.newWorkspace (name.filter (· != ""))
    .ok (d.withSession session, .success [("workspace", .ofOption Workspace.toJson session.workspace)])
  | .openFile path => do
    let (session, drawn) ← attempt (d.session.openFile ids d.drawn d.files (.ofText path))
    return ({ d with session, drawn }, .success
      (("file_path", .ofOption (fun p => .str p.text) session.path) :: openWorkspaceFields session))
  | .saveFile asked => (d.save asked).2.map fun body => ((d.save asked).1, body)
  | .undo => .ok (d.afterStep d.session.undo? "Nothing to undo")
  | .redo => .ok (d.afterStep d.session.redo? "Nothing to redo")
  | .edit change => do
    let (session, subject, drawn) ← permitted (d.session.change ids d.drawn change)
    return ({ d with session, drawn }, .success (editFields session.workspace change subject))
  | .element id =>
    match d.session.workspace.bind (·.element? id) with
    | some e => .ok (d, .success [("element", e.toJson)])
    | none => .error (.refused .noSuchElement)
  | .arrange => do
    match ← permitted d.session.arrange? with
    | some session => return (d.withSession session, .success [])
    | none => throw (.refused .nothingToArrange)
  | .readDocument text => do
    let p ← permitted (Dsl.parse ids d.drawn text)
    return ({ d with drawn := p.drawn },
      .success [("workspace", p.workspace.toJson), ("warnings", .strings p.warnings)])
  | .writeDocument draft => do
    let (ws, drawn) := draft.complete ids d.drawn
    let text ← (Dsl.document ws).mapError .broken
    return ({ d with drawn }, .success [("dsl", .str text)])
  | .checkDocument text =>
    match Dsl.candidateFault? text with
    | some f => .ok (d, .success [("valid", .bool false), ("error", f.toJson)])
    | none => .ok (d, .success [("valid", .bool true)])
  | .importDocument text => do
    let (session, drawn) ← permitted (d.session.importDocument ids d.drawn text)
    return ({ d with session, drawn }, .success (openWorkspaceFields session))
  | .exportDocument => do
    let text ← attempt d.session.exportDocument
    let name := d.session.workspace.elim "" (·.name)
    return (d, .success [("dsl", .str text), ("filename", .str (documentFileName name))])
  | .validate => do
    let ws ← permitted d.session.requireWorkspace
    return (d, .success [("issues", problemsJson ws.problems), ("summary", summaryJson ws.problems)])
  | .vocabulary v => .ok (d, v.toJson)

/-- The desk after a request that is not met. -/
def unmet (d : Desk) : Request → Desk
  | .saveFile asked => (d.save asked).1
  | _ => d

/-- The desk after a request, and the answer. -/
def serve (ids : IdSource) (d : Desk) (r : Request) : Desk × Response :=
  match d.fulfil ids r with
  | .error (.refused why) => (d.unmet r, .refused why)
  | .error (.broken a) => (d.unmet r, .broken a)
  | .ok (after, body) => (after, .met body)

/-- The desk after a message, and the answer as it is sent. -/
def receive (ids : IdSource) (d : Desk) (m : Message) : Desk × Response :=
  match m.request with
  | .ok r => ((d.serve ids r).1, (d.serve ids r).2.sent)
  | .error u => (d, (Response.refused (.unasked u)).sent)

/-! ## Small facts -/

theorem session_of_save {d : Desk} {asked : Option String} {why : Stop} (h : (d.save asked).2 = .error why) :
    (d.save asked).1.session = d.session := by
  unfold save at h ⊢
  split
  · next hs =>
    simp only [hs] at h
    cases h
  · rfl

theorem session_of_unmet {ids : IdSource} {d : Desk} {q : Request} {why : Stop} (h : d.fulfil ids q = .error why) :
    (d.unmet q).session = d.session := by
  cases q
  case saveFile asked =>
    cases hs : (d.save asked).2 with
    | error w => exact session_of_save hs
    | ok body =>
      simp only [fulfil, hs, Except.map] at h
      cases h
  all_goals rfl

theorem session_of_serve_refused {ids : IdSource} {d : Desk} {q : Request} {r : Refusal}
    (h : (d.serve ids q).2 = .refused r) : (d.serve ids q).1.session = d.session := by
  unfold serve at h ⊢
  split
  · next hq => exact session_of_unmet hq
  · next hq => exact session_of_unmet hq
  · next after body hp =>
    simp only [hp] at h
    cases h

theorem session_of_refused {ids : IdSource} {d : Desk} {m : Message} {r : Refusal}
    (h : (d.receive ids m).2 = .refused r) : (d.receive ids m).1.session = d.session := by
  unfold receive at h ⊢
  split
  · next q hq =>
    simp only [hq] at h
    exact session_of_serve_refused (Response.eq_of_sent_eq_refused h)
  · rfl

end Desk

end Blueprint
