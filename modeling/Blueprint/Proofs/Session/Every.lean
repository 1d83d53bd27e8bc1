/-
  Blueprint.Proofs.Session.Every — what holds of every workspace that a session knows.

  Beside the open workspace a session knows those of its history, which come back when changes are
  undone and redone.

  Proved: what holds of all of them and of a new one holds of all of them after a commit, and a step
  through the history makes no new one (`Every.commit`, `Every.undo?`, `Every.redo?`).
-/

import Blueprint.Session.Storage

namespace Blueprint.Session

structure Every (P : Workspace → Prop) (s : Session) : Prop where
  current : ∀ ws, s.workspace = some ws → P ws
  past : ∀ ws ∈ s.past, P ws
  future : ∀ ws ∈ s.future, P ws

variable {P Q : Workspace → Prop} {s t : Session}

theorem requireWorkspace_eq_ok {ws : Workspace} : s.requireWorkspace = .ok ws ↔ s.workspace = some ws := by
  unfold requireWorkspace
  cases s.workspace with
  | none => exact ⟨fun h => (nomatch h), fun h => (nomatch h)⟩
  | some v => exact ⟨fun h => congrArg _ (Except.ok.inj h), fun h => congrArg _ (Option.some.inj h)⟩

theorem Every.imp (h : s.Every P) (imp : ∀ ws, P ws → Q ws) : s.Every Q :=
  ⟨fun ws hw => imp ws (h.current ws hw), fun ws hw => imp ws (h.past ws hw), fun ws hw => imp ws (h.future ws hw)⟩

/-- A session with the same workspaces. -/
theorem Every.of_same (h : s.Every P) (workspace : t.workspace = s.workspace) (past : t.past = s.past)
    (future : t.future = s.future) : t.Every P :=
  ⟨fun ws hw => h.current ws (workspace ▸ hw), fun ws hw => h.past ws (past ▸ hw), fun ws hw => h.future ws (future ▸ hw)⟩

theorem Every.remember (h : s.Every P) : s.remember.Every P := by
  unfold Session.remember
  split <;> exact h.of_same rfl rfl rfl

theorem Every.commit (h : s.Every P) {new : Workspace} (hnew : P new) : (s.commit new).Every P := by
  unfold Session.commit archive
  cases hw : s.workspace with
  | none => exact ⟨fun ws e => by cases e; exact hnew, h.past, h.future⟩
  | some before =>
    refine ⟨fun ws e => by cases e; exact hnew, fun ws mem => ?_, fun ws mem => by cases mem⟩
    rcases List.mem_cons.1 (List.mem_of_mem_take mem) with rfl | mem
    · exact h.current ws hw
    · exact h.past ws mem

theorem every_replace (s : Session) {new : Workspace} (hnew : P new) (path : Option Path) :
    (s.replace new path).Every P :=
  ⟨fun ws e => by cases e; exact hnew, fun _ mem => (nomatch mem), fun _ mem => (nomatch mem)⟩

theorem Every.undo? (h : s.Every P) (ht : s.undo? = some t) : t.Every P := by
  unfold Session.undo? at ht
  split at ht
  · next ws before past hw hp =>
    cases ht
    refine ⟨fun v e => ?_, fun v mem => h.past v (hp ▸ List.mem_cons_of_mem _ mem), fun v mem => ?_⟩
    · cases e
      exact h.past before (hp ▸ List.mem_cons_self)
    · rcases List.mem_cons.1 mem with rfl | mem
      · exact h.current v hw
      · exact h.future v mem
  · cases ht

theorem Every.redo? (h : s.Every P) (ht : s.redo? = some t) : t.Every P := by
  unfold Session.redo? at ht
  split at ht
  · next ws after future hw hf =>
    cases ht
    refine ⟨fun v e => ?_, fun v mem => ?_, fun v mem => h.future v (hf ▸ List.mem_cons_of_mem _ mem)⟩
    · cases e
      exact h.future after (hf ▸ List.mem_cons_self)
    · rcases List.mem_cons.1 mem with rfl | mem
      · exact h.current v hw
      · exact h.past v mem
  · cases ht

/-- Saving changes where the workspace belongs, and nothing else in the session. -/
theorem eq_of_saveFile {files after : Files} {asked : Option String} {overlay : Overlay} {path : Path}
    (h : s.saveFile files asked overlay = (after, .ok (t, path))) :
    t = { s with path := some path, isDirty := false } := by
  unfold saveFile at h
  split at h
  · cases h
  split at h
  · cases h
  split at h
  · cases h
  split at h <;> cases h
  rfl

end Blueprint.Session
