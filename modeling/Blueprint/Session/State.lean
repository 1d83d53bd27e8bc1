/-
  Blueprint.Session.State — the workspace that is open, and its history (`WorkspaceManager`:
  `_save_to_history`, `_commit`, `_replace`, `undo`, `redo`, `get_state`).

  A session holds at most one workspace. A change is committed: the workspace before it goes to the
  past, of which only the latest `bound` are kept, and there is no future any more. Undoing goes one
  step back into the past, redoing one step forward again. Another workspace takes the place of the
  open one with no history of its own.

  The workspaces themselves are in the history, latest first; how it is kept in snapshots, and that a
  session stands for them, is in `Blueprint.Proofs.Session.Snapshots`.

  Proved: past and future together never outgrow the bound (`held_commit`, `held_undo`, `held_redo`).
-/

import Blueprint.Edit.Change
import Blueprint.Storage.Path

namespace Blueprint

structure Session where
  workspace : Option Workspace := none
  path : Option Path := none
  /-- The workspaces before, latest first. -/
  past : List Workspace := []
  /-- The workspaces that were undone, next first. -/
  future : List Workspace := []
  bound : Nat := 100
  /-- There are changes that are not saved. -/
  isDirty : Bool := false
  /-- The positions of elements by name and kind. -/
  remembered : Dictionary Position := {}
  /-- The warnings of the document that was read last. -/
  warnings : List String := []
  /-- How often the workspace was replaced or changed. -/
  changes : Nat := 0
  deriving DecidableEq, Repr

namespace Session

def requireWorkspace (s : Session) : Except Fault Workspace :=
  match s.workspace with
  | some ws => .ok ws
  | none => .error .noWorkspace

def canUndo (s : Session) : Bool := !s.past.isEmpty

def canRedo (s : Session) : Bool := !s.future.isEmpty

/-- Puts the open workspace, if any, into the past (`_save_to_history`). -/
def archive (s : Session) : Session :=
  match s.workspace with
  | some ws => { s with past := (ws :: s.past).take s.bound, future := [] }
  | none => s

def commit (s : Session) (ws : Workspace) : Session :=
  { s.archive with workspace := some ws, isDirty := true, changes := s.changes + 1 }

def replace (s : Session) (ws : Workspace) (path : Option Path) : Session :=
  { s with
    workspace := some ws, path, past := [], future := [], isDirty := false, remembered := {}
    changes := s.changes + 1 }

/-- None if there is nothing to undo. -/
def undo? (s : Session) : Option Session :=
  match s.workspace, s.past with
  | some ws, before :: past =>
    some { s with workspace := some before, past, future := ws :: s.future, isDirty := true, changes := s.changes + 1 }
  | _, _ => none

/-- None if there is nothing to redo. -/
def redo? (s : Session) : Option Session :=
  match s.workspace, s.future with
  | some ws, after :: future =>
    some { s with workspace := some after, past := ws :: s.past, future, isDirty := true, changes := s.changes + 1 }
  | _, _ => none

/-- The history as it is after a step through it that fails to bring its workspace back. -/
def withHistoryOf (s t : Session) : Session := { s with past := t.past, future := t.future }

def newWorkspace (s : Session) (name : Option String) : Session :=
  s.replace (.new (name.getD defaultWorkspaceName) defaultWorkspaceDescription) none

/-- Makes a change in the open workspace; also what it was about and the count of ids drawn after it. -/
def change (ids : IdSource) (drawn : Nat) (s : Session) (c : Change) : Except Fault (Session × Subject × Nat) := do
  let ws ← s.requireWorkspace
  let o ← ws.apply ids drawn c
  return (s.commit o.workspace, o.subject, o.drawn)

def toJson (s : Session) : Json :=
  match s.workspace with
  | some ws =>
    .obj [("workspace", ws.toJson), ("file_path", .ofOption (fun p => .str p.text) s.path),
      ("is_dirty", .bool s.isDirty), ("can_undo", .bool s.canUndo), ("can_redo", .bool s.canRedo)]
  | none =>
    .obj [("workspace", .null), ("file_path", .null), ("is_dirty", .bool false), ("can_undo", .bool false),
      ("can_redo", .bool false)]

/-! ## Small facts -/

/-- How many workspaces the history holds. -/
def held (s : Session) : Nat := s.past.length + s.future.length

theorem held_commit {s : Session} (ws : Workspace) (h : s.held ≤ s.bound) :
    (s.commit ws).held ≤ (s.commit ws).bound := by
  unfold commit archive
  cases s.workspace with
  | none => exact h
  | some before => simp only [held, List.length_take, List.length_cons, List.length_nil]; omega

theorem held_undo {s t : Session} (h : s.undo? = some t) : t.held = s.held := by
  simp only [undo?] at h
  split at h
  · next hp => cases h; simp only [held, hp, List.length_cons]; omega
  · cases h

theorem held_redo {s t : Session} (h : s.redo? = some t) : t.held = s.held := by
  simp only [redo?] at h
  split at h
  · next hf => cases h; simp only [held, hf, List.length_cons]; omega
  · cases h

end Session

end Blueprint
