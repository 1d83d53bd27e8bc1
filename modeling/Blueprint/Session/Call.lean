/-
  Blueprint.Session.Call — a session driven by name (the methods of `WorkspaceManager`, called with
  named arguments).

  An operation is called by its name with named arguments that may be any JSON, and gives the desk after
  it and a reply, or fails. Where the result is the open workspace itself, the reply only says so. Calls
  can lay values over a workspace, and what lies over it goes into the history; but a workspace that
  comes back is read anew, and so cannot have any such value: a step through the history that meets one
  fails, and moves the history all the same. What else fails changes nothing but, perhaps, the files.

  Proved: with nothing laid over it, the state is shown as it is (`toJson_of_plain`); a call that fails
  leaves the open workspace alone (`workspace_of_failed_call`).
-/

import Blueprint.Session.Desk
import Blueprint.Validation.Report

namespace Blueprint

/-- A desk, and what lies over the open workspace, over those before it, latest first, and over those
that were undone, next first. -/
structure Bench where
  desk : Desk := {}
  overlay : Overlay := {}
  past : List Overlay := []
  future : List Overlay := []

structure Reply where
  result : Json := .null
  /-- The result is the open workspace. -/
  isWorkspace : Bool := false

/-- The reply that gives the open workspace. -/
def Reply.workspace : Reply := { isWorkspace := true }

def sessionSignature? : String → Option Signature
  | "get_state" | "remember_positions" | "export_dsl" | "undo" | "redo" | "auto_layout" | "validate" => some {}
  | "new_workspace" => some { optional := ["name"] }
  | "open_workspace" => some { required := ["file_path"] }
  | "save_workspace" => some { optional := ["file_path"] }
  | "import_dsl" => some { required := ["dsl"] }
  | "update_workspace_info" => some { optional := ["name", "description"] }
  | "get_element" => some { required := ["element_id"] }
  | "add_view" => some { required := ["kind", "key"], others := true }
  | "set_workspace_info" | "load_workspace" => none
  | name => editSignature? name

def positionsJson (remembered : Dictionary Position) : Json :=
  .obj (remembered.entries.map fun e => (e.1, e.2.toJson))

/-- A path is given by a text only. -/
def pathOf : Json → Except Failure String
  | .str s => .ok s
  | _ => .error (.accident .wrongArguments)

namespace Bench

/-- The open workspace with what lies over it. -/
def opened (b : Bench) : Except Failure Overlaid := do
  return { workspace := ← faulty b.desk.session.requireWorkspace, overlay := b.overlay }

/-- The state with what lies over the open workspace. -/
def toJson (b : Bench) : Json :=
  let shown := b.desk.session.workspace.map fun workspace => Overlaid.toJson { workspace, overlay := b.overlay }
  b.desk.session.toJson.withField "workspace" shown

/-- The bench after a change has been committed on its desk. -/
def committed (b : Bench) (d : Desk) (overlay : Overlay) : Bench :=
  { desk := d, overlay, past := (b.overlay :: b.past).take d.session.bound, future := [] }

/-- A change that is called for in the open workspace. -/
def edit (ids : IdSource) (b : Bench) (name : String) (args : Json.Fields) : Except Failure (Bench × Reply) := do
  let l ← b.opened
  let (l, subject, drawn) ← l.call ids b.desk.drawn name args
  return (b.committed { b.desk with session := b.desk.session.commit l.workspace, drawn } l.overlay,
    { result := l.overlay.subjectJson subject })

/-! ## The history -/

/-- The open workspace comes back from the history by being read. -/
def reread (ids : IdSource) (b : Bench) : Except Failure Unit :=
  match b.overlay.isEmpty, b.desk.session.workspace with
  | false, some workspace =>
    (Workspace.read ids b.desk.drawn (Overlaid.toJson { workspace, overlay := b.overlay })).map fun _ => ()
  | _, _ => .ok ()

/-- The bench with the history of another one. -/
def withHistoryOf (b after : Bench) : Bench :=
  { b with
    desk := b.desk.withSession (b.desk.session.withHistoryOf after.desk.session)
    past := after.past, future := after.future }

/-- The bench after a step through the history, if its workspace comes back. -/
def stepped (ids : IdSource) (b after : Bench) : Bench × Except Failure Reply :=
  match after.reread ids with
  | .ok () => (after, .ok .workspace)
  | .error e => (b.withHistoryOf after, .error e)

def undo (ids : IdSource) (b : Bench) : Bench × Except Failure Reply :=
  match b.desk.session.undo? with
  | none => (b, .ok {})
  | some s =>
    b.stepped ids
      { desk := b.desk.withSession s, overlay := b.past.headD {}, past := b.past.tail, future := b.overlay :: b.future }

def redo (ids : IdSource) (b : Bench) : Bench × Except Failure Reply :=
  match b.desk.session.redo? with
  | none => (b, .ok {})
  | some s =>
    b.stepped ids
      { desk := b.desk.withSession s, overlay := b.future.headD {}, past := b.overlay :: b.past, future := b.future.tail }

/-! ## Calls -/

/-- The bench after its desk has changed, but not its workspace. -/
def withDesk (b : Bench) (d : Desk) : Bench := { b with desk := d }

def save (b : Bench) (args : Json.Fields) : Bench × Except Failure Reply :=
  match b.opened, (filled? args "file_path").mapM pathOf with
  | .error e, _ | .ok _, .error e => (b, .error e)
  | .ok _, .ok asked =>
    match b.desk.session.saveFile b.desk.files asked b.overlay with
    | (files, .ok (session, path)) => (b.withDesk { b.desk with session, files }, .ok { result := .str path.text })
    | (files, .error e) => (b.withDesk { b.desk with files }, .error e)

def perform (ids : IdSource) (b : Bench) (name : String) (args : Json.Fields) : Except Failure (Bench × Reply) :=
  let d := b.desk
  match name with
  | "get_state" => .ok (b, { result := b.toJson })
  | "new_workspace" =>
    match filled? args "name" with
    | none => .ok ({ desk := d.withSession (d.session.newWorkspace none) }, .workspace)
    | some j => do
      let name ← ((Check.text j).within "name").toExcept
      return ({ desk := d.withSession (d.session.newWorkspace (some name)) }, .workspace)
  | "open_workspace" => do
    let path ← pathOf (argument args "file_path")
    let (session, drawn) ← d.session.openFile ids d.drawn d.files (.ofText path)
    return ({ desk := { d with session, drawn } }, .workspace)
  | "remember_positions" =>
    let session := d.session.remember
    .ok (b.withDesk (d.withSession session), { result := positionsJson session.remembered })
  | "import_dsl" => do
    let text ← textArgument args "dsl"
    let (session, drawn) ← faulty (d.session.importDocument ids d.drawn text)
    return (b.committed { d with session, drawn } {}, .workspace)
  | "export_dsl" => do return (b, { result := .str (← d.session.exportDocument b.overlay) })
  | "update_workspace_info" => do
    let (b, _) ← b.edit ids "set_workspace_info" args
    return (b, .workspace)
  | "auto_layout" => do
    match ← faulty d.session.arrange? with
    | some session => return (b.committed (d.withSession session) b.overlay, { result := .bool true })
    | none => return (b, { result := .bool false })
  | "validate" => do
    let ws ← faulty d.session.requireWorkspace
    return (b, { result := .obj [("issues", problemsJson ws.problems), ("summary", summaryJson ws.problems)] })
  | "get_element" =>
    let found := (argument args "element_id").asString?.bind fun id => d.session.workspace.bind (·.element? id)
    .ok (b, { result := .ofOption Element.toJson found })
  | _ => b.edit ids name args

/-- The bench after a call that changes nothing if it fails. -/
def settled (b : Bench) : Except Failure (Bench × Reply) → Bench × Except Failure Reply
  | .ok (after, reply) => (after, .ok reply)
  | .error e => (b, .error e)

/-- The bench after a call, and the reply to it. A session is no argument of its own operations. -/
def call (ids : IdSource) (b : Bench) (name : String) (args : Json.Fields) : Bench × Except Failure Reply :=
  match sessionSignature? name with
  | some signature =>
    if !signature.accepts args || Json.Fields.has args "self" then (b, .error (.accident .wrongArguments))
    else match name with
      | "save_workspace" => b.save args
      | "undo" => b.undo ids
      | "redo" => b.redo ids
      | _ => b.settled (b.perform ids name args)
  | none => (b, .error (.accident .noFields))

/-! ## Small facts -/

theorem toJson_of_plain (d : Desk) : toJson { desk := d } = d.session.toJson := by
  unfold toJson Session.toJson
  cases d.session.workspace with
  | none => rfl
  | some ws =>
    simp only [Option.map_some, Overlaid.toJson_of_plain]
    rfl

theorem workspace_of_stepped {ids : IdSource} {b after : Bench} {e : Failure}
    (h : (b.stepped ids after).2 = .error e) :
    (b.stepped ids after).1.desk.session.workspace = b.desk.session.workspace := by
  unfold stepped at h ⊢
  split
  · next hr => simp [hr] at h
  · rfl

theorem workspace_of_undo {ids : IdSource} {b : Bench} {e : Failure} (h : (b.undo ids).2 = .error e) :
    (b.undo ids).1.desk.session.workspace = b.desk.session.workspace := by
  unfold undo at h ⊢
  split
  · rfl
  · next hs =>
    simp only [hs] at h
    exact workspace_of_stepped h

theorem workspace_of_redo {ids : IdSource} {b : Bench} {e : Failure} (h : (b.redo ids).2 = .error e) :
    (b.redo ids).1.desk.session.workspace = b.desk.session.workspace := by
  unfold redo at h ⊢
  split
  · rfl
  · next hs =>
    simp only [hs] at h
    exact workspace_of_stepped h

theorem workspace_of_save {b : Bench} {args : Json.Fields} {e : Failure} (h : (b.save args).2 = .error e) :
    (b.save args).1.desk.session.workspace = b.desk.session.workspace := by
  unfold save at h ⊢
  split
  · rfl
  · rfl
  · next ho ha =>
    simp only [ho, ha] at h
    split
    · next hs => simp [hs] at h
    · rfl

theorem workspace_of_failed_call {ids : IdSource} {b : Bench} {name : String} {args : Json.Fields} {e : Failure}
    (h : (b.call ids name args).2 = .error e) :
    (b.call ids name args).1.desk.session.workspace = b.desk.session.workspace := by
  unfold call at h ⊢
  split
  · next hs =>
    simp only [hs] at h
    split
    · rfl
    · next ha =>
      simp only [ha, Bool.false_eq_true, if_false] at h
      split
      · exact workspace_of_save h
      · exact workspace_of_undo h
      · exact workspace_of_redo h
      · unfold settled at h ⊢
        split
        · next hp => simp_all
        · rfl
  · rfl

end Bench

end Blueprint
