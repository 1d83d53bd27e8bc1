/-
  Blueprint.Proofs.Session.Snapshots — the history as it is kept, in snapshots.

  A history is kept in two lists of JSON values, `_history` and `_future`, the latest at the end. In front of a
  commit, what could be redone is forgotten and a snapshot of the open workspace is appended (`_save_to_history`);
  if there are more than `bound` snapshots then, the oldest one is dropped, and never more than one. To undo
  (`undo`), a snapshot of the open workspace is appended to what can be redone, the last one is taken from the
  history, and it is read as a workspace; if that failed, the lists would have been changed already. To redo
  (`redo`) is the same the other way round, and nothing is dropped. A session holds the workspaces themselves, the
  latest first, and keeps as many of them as the bound allows.

  Two gaps lie between the two. A session may drop many workspaces at once; but a history that has not outgrown its
  bound does not outgrow it (`Session.held_run`), and it has not when a workspace is opened
  (`Session.IsInstalled.held_le`), so one is the most that is ever too much. And a snapshot need not be one of a
  workspace; but those that are kept are, and a workspace is read back from its snapshot as it was.

  Proved: an act does the same to a session as to the snapshots that it stands for (`step_snapshots`), and so does
  any run of acts: the answers are the same, and no snapshot fails to be read (`run_snapshots`).
-/

import Blueprint.Proofs.Session.Timeline

namespace Blueprint

/-- An open workspace and its history. -/
structure Snapshots where
  workspace : Option Workspace
  /-- Latest last. -/
  history : List Json
  /-- Next last. -/
  future : List Json
  bound : Nat

namespace Snapshots

def save (k : Snapshots) : Snapshots :=
  match k.workspace with
  | none => k
  | some ws =>
    let history := k.history ++ [ws.toJson]
    { k with history := if k.bound < history.length then history.tail else history, future := [] }

def commit (k : Snapshots) (ws : Workspace) : Snapshots := { k.save with workspace := some ws }

/-- Opens the workspace that a snapshot holds. -/
def restore (ids : IdSource) (drawn : Nat) (snapshot : Json) (k : Snapshots) :
    Snapshots × Except Failure (Option Workspace) :=
  match Workspace.read ids drawn snapshot with
  | .ok (ws, _) => ({ k with workspace := some ws }, .ok (some ws))
  | .error e => (k, .error e)

def undo (ids : IdSource) (drawn : Nat) (k : Snapshots) : Snapshots × Except Failure (Option Workspace) :=
  match k.workspace, k.history.getLast? with
  | some ws, some snapshot =>
    restore ids drawn snapshot { k with history := k.history.dropLast, future := k.future ++ [ws.toJson] }
  | _, _ => (k, .ok none)

def redo (ids : IdSource) (drawn : Nat) (k : Snapshots) : Snapshots × Except Failure (Option Workspace) :=
  match k.workspace, k.future.getLast? with
  | some ws, some snapshot =>
    restore ids drawn snapshot { k with history := k.history ++ [ws.toJson], future := k.future.dropLast }
  | _, _ => (k, .ok none)

/-- What is done, and the workspace that it gives, if it does anything. -/
def step (ids : IdSource) (drawn : Nat) (k : Snapshots) :
    Timeline.Event → Snapshots × Except Failure (Option Workspace)
  | .commit ws => (k.commit ws, .ok (some ws))
  | .undo => k.undo ids drawn
  | .redo => k.redo ids drawn
  | .nothing => (k, .ok none)

def run (ids : IdSource) (drawn : Nat) :
    Snapshots → List Timeline.Event → Snapshots × List (Except Failure (Option Workspace))
  | k, [] => (k, [])
  | k, e :: es =>
    let after := k.step ids drawn e
    let rest := run ids drawn after.1 es
    (rest.1, after.2 :: rest.2)

/-- A snapshot of a workspace holds that very workspace. -/
theorem restore_toJson (ids : IdSource) (drawn : Nat) (ws : Workspace) (k : Snapshots) :
    k.restore ids drawn ws.toJson = ({ k with workspace := some ws }, .ok (some ws)) := by
  rw [restore, Workspace.read_toJson]

end Snapshots

namespace Session

/-- The snapshots that a session stands for. -/
def snapshots (s : Session) : Snapshots :=
  { workspace := s.workspace, history := (s.past.map (·.toJson)).reverse
    future := (s.future.map (·.toJson)).reverse, bound := s.bound }

variable {s : Session}

/-! ## Steps -/

/-- One more than the bound allows is one too many. -/
theorem snapshots_commit (held : s.held ≤ s.bound) (new : Workspace) :
    (s.commit new).snapshots = s.snapshots.commit new := by
  cases hw : s.workspace with
  | none => simp only [commit, archive, snapshots, Snapshots.commit, Snapshots.save, hw]
  | some ws =>
    have short : s.past.length ≤ s.bound := Nat.le_trans (Nat.le_add_right _ _) held
    have kept : (((ws :: s.past).take s.bound).map (·.toJson)).reverse =
        if s.bound < s.past.length + 1 then ((s.past.map (·.toJson)).reverse ++ [ws.toJson]).tail
        else (s.past.map (·.toJson)).reverse ++ [ws.toJson] := by
      have appended : (s.past.map (·.toJson)).reverse ++ [ws.toJson] = ((ws :: s.past).map (·.toJson)).reverse :=
        List.reverse_cons.symm
      rw [appended]
      split
      · next full =>
        have all : s.bound = (ws :: s.past).length - 1 := by
          rw [List.length_cons]
          omega
        rw [all, ← List.dropLast_eq_take, List.map_dropLast, List.tail_reverse]
      · next room => rw [List.take_of_length_le (Nat.le_of_not_lt room)]
    simp only [commit, archive, snapshots, Snapshots.commit, Snapshots.save, hw, kept, List.length_append,
      List.length_reverse, List.length_map, List.length_singleton, List.map_nil, List.reverse_nil]

theorem snapshots_undo (ids : IdSource) (n : Nat) (s : Session) :
    s.snapshots.undo ids n = match s.undo? with
      | some t => (t.snapshots, .ok t.workspace)
      | none => (s.snapshots, .ok none) := by
  cases hw : s.workspace with
  | none => simp only [Snapshots.undo, undo?, snapshots, hw]
  | some ws =>
    cases hp : s.past with
    | nil => simp only [Snapshots.undo, undo?, snapshots, hw, hp, List.map_nil, List.reverse_nil, List.getLast?_nil]
    | cons before past =>
      simp only [Snapshots.undo, undo?, snapshots, hw, hp, List.map_cons, List.reverse_cons, List.getLast?_concat,
        List.dropLast_concat, Snapshots.restore_toJson]

theorem snapshots_redo (ids : IdSource) (n : Nat) (s : Session) :
    s.snapshots.redo ids n = match s.redo? with
      | some t => (t.snapshots, .ok t.workspace)
      | none => (s.snapshots, .ok none) := by
  cases hw : s.workspace with
  | none => simp only [Snapshots.redo, redo?, snapshots, hw]
  | some ws =>
    cases hf : s.future with
    | nil => simp only [Snapshots.redo, redo?, snapshots, hw, hf, List.map_nil, List.reverse_nil, List.getLast?_nil]
    | cons after future =>
      simp only [Snapshots.redo, redo?, snapshots, hw, hf, List.map_cons, List.reverse_cons, List.getLast?_concat,
        List.dropLast_concat, Snapshots.restore_toJson]

/-- One act does to the snapshots what it stands for. -/
theorem step_snapshots (ids : IdSource) (drawn n : Nat) (held : s.held ≤ s.bound) (a : Act) :
    s.snapshots.step ids n (a.event ((s.act? ids drawn a).bind (·.1.workspace))) = match s.act? ids drawn a with
      | some (t, _) => (t.snapshots, .ok t.workspace)
      | none => (s.snapshots, .ok none) := by
  cases a with
  | undo =>
    rw [Act.event, Snapshots.step, snapshots_undo, act?]
    cases s.undo? <;> rfl
  | redo =>
    rw [Act.event, Snapshots.step, snapshots_redo, act?]
    cases s.redo? <;> rfl
  | _ =>
    cases h : s.act? ids drawn _ with
    | none => rfl
    | some r =>
      obtain ⟨remembered, warnings, new, e⟩ := commit_of_act? (by trivial) h
      have committed := snapshots_commit (s := { s with remembered, warnings }) held new
      simp only [Option.bind_some, e, committed]
      rfl

/-! ## Runs -/

/-- Whatever is done from then on, a session stands for the snapshots that are kept, and answers as they do: none of
them fails to be read, whatever has been drawn by then. -/
theorem run_snapshots (ids : IdSource) (drawn n : Nat) (held : s.held ≤ s.bound) (acts : List Act) :
    s.snapshots.run ids n (List.zipWith Act.event (s.run ids drawn acts).answers acts) =
      ((s.run ids drawn acts).session.snapshots, (s.run ids drawn acts).answers.map .ok) := by
  induction acts generalizing s drawn with
  | nil => rfl
  | cons a acts ih =>
    have step := step_snapshots ids drawn n held a
    rw [run]
    cases h : s.act? ids drawn a with
    | none =>
      rw [h] at step
      simp only [Option.getD_none, Option.bind_none, List.zipWith_cons_cons, Snapshots.run, List.map_cons] at step ⊢
      rw [step, ih drawn held]
    | some r =>
      rw [h] at step
      simp only [Option.getD_some, Option.bind_some, List.zipWith_cons_cons, Snapshots.run, List.map_cons] at step ⊢
      rw [step, ih r.2 (held_act? h held)]

end Session

end Blueprint
