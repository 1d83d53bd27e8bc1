/-
  Blueprint.Proofs.Session.Timeline — the history of a session as one line of workspaces (`_commit`, `undo`,
  `redo`).

  A timeline is a list of workspaces, oldest first, with a cursor at the open one. A commit drops what
  comes after the cursor, appends a workspace, and then drops the oldest ones until at most `bound` are
  in front of the cursor. Undoing moves the cursor back, redoing moves it forth, and neither goes past
  an end of the list. A session has two stacks instead: what is in front of the cursor, latest first,
  and what is behind it.

  Proved: whatever is done after a workspace is opened, the session shows the timeline that the commits,
  undos and redos lead to, and answers as it does (`run_refines_timeline`).
-/

import Blueprint.Proofs.Except
import Blueprint.Proofs.Identifier.Source
import Blueprint.Proofs.Schema.ReadBack
import Blueprint.Session.Storage

namespace Blueprint

structure Timeline where
  values : List Workspace
  cursor : Nat
  deriving DecidableEq, Repr

namespace Timeline

/-- The history of a workspace that was just opened. -/
def start (ws : Workspace) : Timeline := ⟨[ws], 0⟩

def current? (t : Timeline) : Option Workspace := t.values[t.cursor]?

def commit (bound : Nat) (t : Timeline) (ws : Workspace) : Timeline :=
  let excess := t.cursor + 1 - bound
  { values := (t.values.take (t.cursor + 1) ++ [ws]).drop excess, cursor := t.cursor + 1 - excess }

def undo? (t : Timeline) : Option Timeline := if t.cursor = 0 then none else some { t with cursor := t.cursor - 1 }

def redo? (t : Timeline) : Option Timeline :=
  if t.cursor + 1 < t.values.length then some { t with cursor := t.cursor + 1 } else none

inductive Event where
  | commit (ws : Workspace)
  | undo
  | redo
  /-- Something that was refused. -/
  | nothing
  deriving DecidableEq, Repr

def step? (bound : Nat) (t : Timeline) : Event → Option Timeline
  | .commit ws => some (t.commit bound ws)
  | .undo => t.undo?
  | .redo => t.redo?
  | .nothing => none

/-- The timeline after some events, and the workspace that each of them gave, if it did anything. -/
def run (bound : Nat) : Timeline → List Event → Timeline × List (Option Workspace)
  | t, [] => (t, [])
  | t, e :: es =>
    let (u, answers) := run bound ((t.step? bound e).getD t) es
    (u, (t.step? bound e).bind current? :: answers)

/-! ## Back and forth -/

theorem run_append (bound : Nat) (t : Timeline) (es fs : List Event) :
    (t.run bound (es ++ fs)).1 = ((t.run bound es).1.run bound fs).1 := by
  induction es generalizing t with
  | nil => rfl
  | cons e es ih => exact ih _

theorem run_undo (bound : Nat) (t : Timeline) (k : Nat) :
    (t.run bound (List.replicate k .undo)).1 = { t with cursor := t.cursor - k } := by
  induction k generalizing t with
  | zero => rfl
  | succ k ih =>
    rw [List.replicate_succ, run, ih]
    simp only [step?, undo?]
    split
    · next h => simp only [Option.getD_none, h, Nat.zero_sub]
    · simp only [Option.getD_some, mk.injEq, true_and]; omega

theorem run_redo (bound : Nat) (t : Timeline) (inside : t.cursor < t.values.length) (k : Nat) :
    (t.run bound (List.replicate k .redo)).1 = { t with cursor := min (t.cursor + k) (t.values.length - 1) } := by
  induction k generalizing t with
  | zero =>
    have here : min t.cursor (t.values.length - 1) = t.cursor := by omega
    simp only [List.replicate_zero, run, Nat.add_zero, here]
  | succ k ih =>
    rw [List.replicate_succ, run]
    simp only [step?, redo?]
    split
    · next h =>
      rw [Option.getD_some, ih _ h]
      simp only [mk.injEq, true_and]
      omega
    · next h =>
      rw [Option.getD_none, ih _ inside]
      simp only [mk.injEq, true_and]
      omega

/-- As many redos as undos lead back, unless the undos ran into the start and there was something to redo. -/
theorem run_undo_redo (bound : Nat) (t : Timeline) (inside : t.cursor < t.values.length) {k : Nat}
    (h : k ≤ t.cursor ∨ t.cursor + 1 = t.values.length) :
    (t.run bound (List.replicate k .undo ++ List.replicate k .redo)).1 = t := by
  rw [run_append, run_undo, run_redo _ _ (by simp only; omega)]
  obtain ⟨values, cursor⟩ := t
  simp only [mk.injEq, true_and] at h inside ⊢
  omega

end Timeline

namespace Session

/-! ## What is done to an open workspace -/

inductive Act where
  | change (c : Change)
  | importDocument (text : String)
  | arrange
  | undo
  | redo
  deriving DecidableEq, Repr

/-- None if nothing is changed: the act is refused, or there is nothing to do. -/
def act? (ids : IdSource) (drawn : Nat) (s : Session) : Act → Option (Session × Nat)
  | .change c => (s.change ids drawn c).toOption.map fun r => (r.1, r.2.2)
  | .importDocument text => (s.importDocument ids drawn text).toOption
  | .arrange => (s.arrange?.toOption.bind id).map (·, drawn)
  | .undo => s.undo?.map (·, drawn)
  | .redo => s.redo?.map (·, drawn)

/-- A session after some acts, and the workspace that each act gave, if it did anything. -/
structure Ran where
  session : Session
  drawn : Nat
  answers : List (Option Workspace)
  deriving DecidableEq, Repr

def run (ids : IdSource) : Session → Nat → List Act → Ran
  | s, drawn, [] => { session := s, drawn, answers := [] }
  | s, drawn, a :: as =>
    let after := (s.act? ids drawn a).getD (s, drawn)
    let rest := run ids after.1 after.2 as
    { rest with answers := (s.act? ids drawn a).bind (·.1.workspace) :: rest.answers }

/-- What an act is for the timeline, given the workspace that came of it. -/
def Act.event (answer : Option Workspace) : Act → Timeline.Event
  | .undo => .undo
  | .redo => .redo
  | .change _ | .importDocument _ | .arrange => answer.elim .nothing .commit

/-- The open workspace between those before it and those that were undone. -/
def timeline? (s : Session) : Option Timeline :=
  s.workspace.map fun ws => ⟨s.past.reverse ++ ws :: s.future, s.past.length⟩

/-! ## Steps -/

variable {ids : IdSource} {s t : Session} {drawn n : Nat} {ws : Workspace} {l : Timeline}

theorem timeline?_eq_some (h : s.timeline? = some l) :
    ∃ ws, s.workspace = some ws ∧ l = ⟨s.past.reverse ++ ws :: s.future, s.past.length⟩ := by
  obtain ⟨ws, hw, rfl⟩ := Option.map_eq_some_iff.1 h
  exact ⟨ws, hw, rfl⟩

/-- The cursor is at the open workspace. -/
theorem bind_current? (s : Session) : s.timeline?.bind (·.current?) = s.workspace := by
  unfold timeline?
  cases s.workspace with
  | none => rfl
  | some ws => simp [Timeline.current?]

theorem timeline?_commit (h : s.timeline? = some l) (new : Workspace) :
    (s.commit new).timeline? = some (l.commit s.bound new) := by
  obtain ⟨ws, hw, rfl⟩ := timeline?_eq_some h
  have front : (s.past.reverse ++ ws :: s.future).take (s.past.length + 1) = (ws :: s.past).reverse := by
    simp [List.take_append, List.take_of_length_le]
  have kept : ((ws :: s.past).take s.bound).reverse ++ [new] =
      ((ws :: s.past).reverse ++ [new]).drop (s.past.length + 1 - s.bound) := by
    rw [List.drop_append_of_le_length (by simp), show s.past.length + 1 = (ws :: s.past).length from rfl, List.reverse_take]
  simp only [commit, archive, hw, timeline?, Option.map_some, Timeline.commit, front, kept, List.length_take,
    List.length_cons, Option.some.injEq, Timeline.mk.injEq, true_and]
  omega

theorem timeline?_undo (h : s.timeline? = some l) : s.undo?.bind timeline? = l.undo? := by
  obtain ⟨ws, hw, rfl⟩ := timeline?_eq_some h
  cases hp : s.past with
  | nil => simp [undo?, hw, hp, Timeline.undo?]
  | cons before past => simp [undo?, hw, hp, Timeline.undo?, timeline?]

theorem timeline?_redo (h : s.timeline? = some l) : s.redo?.bind timeline? = l.redo? := by
  obtain ⟨ws, hw, rfl⟩ := timeline?_eq_some h
  cases hf : s.future with
  | nil => simp [redo?, hw, hf, Timeline.redo?]
  | cons after future => simp [redo?, hw, hf, Timeline.redo?, timeline?]

theorem bound_commit (s : Session) (new : Workspace) : (s.commit new).bound = s.bound := by
  unfold commit archive
  split <;> rfl

theorem future_commit (hw : s.workspace = some ws) (new : Workspace) : (s.commit new).future = [] := by
  simp only [commit, archive, hw]

/-- Neither undoing nor redoing. -/
def Act.Mutates : Act → Prop
  | .change _ | .importDocument _ | .arrange => True
  | .undo | .redo => False

/-- Only what is remembered changes. -/
theorem exists_remember_eq (s : Session) : ∃ remembered, s.remember = { s with remembered } := by
  unfold remember
  split
  · exact ⟨_, rfl⟩
  · exact ⟨s.remembered, rfl⟩

/-- A mutation that is not refused is a commit, for which positions and warnings may have been noted. -/
theorem commit_of_act? {a : Act} (mutates : a.Mutates) (h : s.act? ids drawn a = some (t, n)) :
    ∃ (remembered : Dictionary Position) (warnings : List String) (new : Workspace),
      t = ({ s with remembered, warnings } : Session).commit new := by
  cases a with
  | change c =>
    obtain ⟨⟨u, subject, m⟩, hu, e⟩ := Option.map_eq_some_iff.1 h
    cases e
    obtain ⟨ws, hw, hu⟩ := bind_eq_ok.1 (toOption_eq_some.1 hu)
    obtain ⟨o, _, hu⟩ := bind_eq_ok.1 hu
    cases hu
    exact ⟨s.remembered, s.warnings, o.workspace, rfl⟩
  | importDocument text =>
    obtain ⟨p, _, hu⟩ := bind_eq_ok.1 (toOption_eq_some.1 h)
    cases hu
    obtain ⟨remembered, e⟩ := exists_remember_eq { s with warnings := p.warnings }
    exact ⟨remembered, p.warnings, _, by rw [e]⟩
  | arrange =>
    obtain ⟨u, hu, e⟩ := Option.map_eq_some_iff.1 h
    cases e
    obtain ⟨o, ho, rfl⟩ := Option.bind_eq_some_iff.1 hu
    obtain ⟨ws, _, hu⟩ := bind_eq_ok.1 (toOption_eq_some.1 ho)
    split at hu
    · cases hu
    · cases hu
      exact ⟨s.remembered, s.warnings, _, rfl⟩
  | undo => cases mutates
  | redo => cases mutates

/-! ## Runs -/

/-- The bound stays, and there is still a workspace. -/
theorem act?_keeps {a : Act} (h : s.act? ids drawn a = some (t, n)) :
    t.bound = s.bound ∧ ∃ l, t.timeline? = some l := by
  cases a with
  | undo =>
    obtain ⟨u, hu, e⟩ := Option.map_eq_some_iff.1 h
    cases e
    simp only [undo?] at hu
    split at hu <;> cases hu
    exact ⟨rfl, _, rfl⟩
  | redo =>
    obtain ⟨u, hu, e⟩ := Option.map_eq_some_iff.1 h
    cases e
    simp only [redo?] at hu
    split at hu <;> cases hu
    exact ⟨rfl, _, rfl⟩
  | _ =>
    obtain ⟨remembered, warnings, new, rfl⟩ := commit_of_act? (by trivial) h
    exact ⟨bound_commit _ new, _, rfl⟩

/-- A history that has not outgrown its bound does not outgrow it. -/
theorem held_act? {a : Act} (h : s.act? ids drawn a = some (t, n)) (held : s.held ≤ s.bound) : t.held ≤ t.bound := by
  rw [(act?_keeps h).1]
  cases a with
  | undo =>
    obtain ⟨u, hu, e⟩ := Option.map_eq_some_iff.1 h
    cases e
    exact Nat.le_trans (Nat.le_of_eq (held_undo hu)) held
  | redo =>
    obtain ⟨u, hu, e⟩ := Option.map_eq_some_iff.1 h
    cases e
    exact Nat.le_trans (Nat.le_of_eq (held_redo hu)) held
  | _ =>
    obtain ⟨remembered, warnings, new, rfl⟩ := commit_of_act? (by trivial) h
    have committed := held_commit (s := { s with remembered, warnings }) new held
    rwa [bound_commit] at committed

theorem held_run (ids : IdSource) (drawn : Nat) (held : s.held ≤ s.bound) (acts : List Act) :
    (s.run ids drawn acts).session.held ≤ (s.run ids drawn acts).session.bound := by
  induction acts generalizing s drawn with
  | nil => exact held
  | cons a acts ih =>
    rw [run]
    cases h : s.act? ids drawn a with
    | none => exact ih drawn held
    | some r => exact ih r.2 (held_act? h held)

/-- One act does to the timeline what it stands for. -/
theorem act?_refines (ids : IdSource) (drawn : Nat) (hl : s.timeline? = some l) (a : Act) :
    (s.act? ids drawn a).bind (·.1.timeline?) =
      l.step? s.bound (a.event ((s.act? ids drawn a).bind (·.1.workspace))) := by
  cases a with
  | undo =>
    rw [act?, Option.bind_map]
    exact timeline?_undo hl
  | redo =>
    rw [act?, Option.bind_map]
    exact timeline?_redo hl
  | _ =>
    cases h : s.act? ids drawn _ with
    | none => rfl
    | some r =>
      obtain ⟨remembered, warnings, new, e⟩ := commit_of_act? (by trivial) h
      have same : ({ s with remembered, warnings } : Session).timeline? = some l := hl
      simp only [Option.bind_some, e]
      exact timeline?_commit same new

/-- The session shows the timeline after the run, and the answers are the timeline's. -/
theorem run_refines (ids : IdSource) (drawn : Nat) (hl : s.timeline? = some l) (acts : List Act) :
    (s.run ids drawn acts).session.timeline? =
        some (l.run s.bound (List.zipWith Act.event (s.run ids drawn acts).answers acts)).1 ∧
      (s.run ids drawn acts).answers = (l.run s.bound (List.zipWith Act.event (s.run ids drawn acts).answers acts)).2 ∧
      (s.run ids drawn acts).session.bound = s.bound := by
  induction acts generalizing s l drawn with
  | nil => exact ⟨hl, rfl, rfl⟩
  | cons a acts ih =>
    have step := act?_refines ids drawn hl a
    have answer : (s.act? ids drawn a).bind (·.1.workspace) =
        ((s.act? ids drawn a).bind (·.1.timeline?)).bind (·.current?) := by
      rw [Option.bind_assoc]
      exact congrArg _ (funext fun r => (bind_current? r.1).symm)
    rw [run]
    cases h : s.act? ids drawn a with
    | none =>
      rw [h] at step answer
      obtain ⟨line, answers, bound⟩ := ih drawn hl
      simp only [Option.getD_none, Option.bind_none, List.zipWith_cons_cons, Timeline.run] at step ⊢
      rw [← step]
      exact ⟨line, congrArg _ answers, bound⟩
    | some r =>
      obtain ⟨t, n⟩ := r
      obtain ⟨same, m, hm⟩ := act?_keeps h
      obtain ⟨line, answers, bound⟩ := ih n hm
      rw [h] at step answer
      simp only [Option.bind_some, hm] at step answer
      simp only [Option.getD_some, Option.bind_some, List.zipWith_cons_cons, Timeline.run, ← step]
      rw [same] at line answers bound
      exact ⟨line, by rw [← answers, answer], bound⟩

theorem length_answers (s : Session) (drawn : Nat) (acts : List Act) :
    (s.run ids drawn acts).answers.length = acts.length := by
  induction acts generalizing s drawn with
  | nil => rfl
  | cons a acts ih => exact congrArg (· + 1) (ih _ _)

/-- What undoing and redoing are for the timeline does not depend on what comes of them. -/
theorem event_of_not_mutates {a : Act} (h : ¬ a.Mutates) (answer : Option Workspace) :
    a.event answer = a.event none := by
  cases a with
  | undo => rfl
  | redo => rfl
  | _ => exact absurd trivial h

theorem zipWith_event {answers : List (Option Workspace)} {acts : List Act} (same : answers.length = acts.length)
    (h : ∀ a ∈ acts, ¬ a.Mutates) : List.zipWith Act.event answers acts = acts.map (Act.event none) := by
  induction acts generalizing answers with
  | nil => simp
  | cons a acts ih =>
    cases answers with
    | nil => cases same
    | cons answer answers =>
      rw [List.zipWith_cons_cons, List.map_cons, event_of_not_mutates (h a List.mem_cons_self),
        ih (Nat.succ.inj same) fun b hb => h b (List.mem_cons_of_mem _ hb)]

theorem run_undo_redo (ids : IdSource) (drawn : Nat) (hl : s.timeline? = some l) {k : Nat}
    (h : k ≤ s.past.length ∨ s.future = []) :
    (s.run ids drawn (List.replicate k .undo ++ List.replicate k .redo)).session.timeline? = some l := by
  have steps : ∀ a ∈ List.replicate k Act.undo ++ List.replicate k .redo, ¬ a.Mutates := by
    intro a ha
    rcases List.mem_append.1 ha with ha | ha <;> rw [List.eq_of_mem_replicate ha] <;> exact id
  obtain ⟨line, _, _⟩ := run_refines ids drawn hl
    (List.replicate k .undo ++ List.replicate k .redo)
  rw [line, zipWith_event (length_answers _ _ _) steps, List.map_append, List.map_replicate, List.map_replicate]
  obtain ⟨ws, _, rfl⟩ := timeline?_eq_some hl
  refine congrArg some (Timeline.run_undo_redo _ _ ?_ ?_)
  · simp
  · rcases h with short | none
    · exact .inl short
    · exact .inr (by simp [none])

theorem future_of_act? {a : Act} (hl : s.timeline? = some l) (mutates : a.Mutates)
    (h : s.act? ids drawn a = some (t, n)) : t.future = [] := by
  obtain ⟨remembered, warnings, new, rfl⟩ := commit_of_act? mutates h
  obtain ⟨ws, hw, _⟩ := timeline?_eq_some hl
  exact future_commit (s := { s with remembered, warnings }) hw new

theorem canUndo_eq (hl : s.timeline? = some l) : s.canUndo = s.undo?.isSome := by
  obtain ⟨ws, hw, _⟩ := timeline?_eq_some hl
  cases hp : s.past <;> simp [canUndo, undo?, hw, hp]

theorem canRedo_eq (hl : s.timeline? = some l) : s.canRedo = s.redo?.isSome := by
  obtain ⟨ws, hw, _⟩ := timeline?_eq_some hl
  cases hf : s.future <;> simp [canRedo, redo?, hw, hf]

/-- A workspace that is created or opened has no history. -/
def IsInstalled (s : Session) : Prop :=
  (∃ before name, s = newWorkspace before name) ∨
    ∃ before files path ids drawn n, openFile ids drawn files before path = .ok (s, n)

theorem IsInstalled.timeline? (h : s.IsInstalled) :
    ∃ ws, s.workspace = some ws ∧ s.timeline? = some (.start ws) := by
  rcases h with ⟨before, name, rfl⟩ | ⟨before, files, path, ids, drawn, n, h⟩
  · exact ⟨_, rfl, rfl⟩
  · unfold openFile at h
    split at h
    · cases h
    · cases h
    · split at h
      · cases h
      · obtain ⟨⟨ws, warnings, m⟩, _, h⟩ := bind_eq_ok.1 h
        cases h
        exact ⟨_, rfl, rfl⟩

theorem IsInstalled.held_le (h : s.IsInstalled) : s.held ≤ s.bound := by
  obtain ⟨_, _, started⟩ := h.timeline?
  obtain ⟨_, _, alone⟩ := timeline?_eq_some started
  have lengths := congrArg (·.values.length) alone
  simp only [Timeline.start, List.length_append, List.length_reverse, List.length_cons, List.length_nil] at lengths
  rw [held]
  omega

/-! ## The timeline of a session -/

/-- From the time when a workspace is opened, a session is the timeline of what was committed, undone and
redone in it. A workspace comes back from the JSON that a snapshot of it holds. -/
theorem run_refines_timeline (ids : IdSource) (drawn : Nat) (installed : s.IsInstalled) (acts : List Act) :
    let r := s.run ids drawn acts
    ∃ ws l, s.workspace = some ws ∧ r.session.timeline? = some l ∧
      (Timeline.start ws).run s.bound (List.zipWith Act.event r.answers acts) = (l, r.answers) ∧
      (∀ value ∈ l.values, ∀ n, Workspace.read ids n value.toJson = .ok (value, n)) ∧
      r.session.past.length + r.session.future.length ≤ s.bound ∧
      r.session.canUndo = r.session.undo?.isSome ∧ r.session.canRedo = r.session.redo?.isSome ∧
      (∀ a t n, Act.Mutates a → r.session.act? ids r.drawn a = some (t, n) → t.future = []) ∧
      ∀ k, k ≤ r.session.past.length ∨ r.session.future = [] →
        (r.session.run ids r.drawn (List.replicate k .undo ++ List.replicate k .redo)).session.workspace =
          r.session.workspace := by
  intro r
  obtain ⟨ws, hw, hl⟩ := installed.timeline?
  obtain ⟨line, answers, bound⟩ := run_refines ids drawn hl acts
  have bounded : r.session.held ≤ s.bound := bound ▸ held_run ids drawn installed.held_le acts
  generalize hl : (Timeline.start ws).run s.bound (List.zipWith Act.event r.answers acts) = after at line answers
  obtain ⟨l, given⟩ := after
  refine ⟨ws, l, hw, line, hl.trans (congrArg _ answers.symm), ?_, bounded, canUndo_eq line, canRedo_eq line, ?_, ?_⟩
  · exact fun value _ n => Workspace.read_toJson ids n value
  · exact fun a t n mutates h => future_of_act? line mutates h
  · intro k short
    have back := run_undo_redo ids r.drawn line short
    rw [← bind_current?, ← bind_current? r.session, back, line]

/-- With room for one workspace before the open one, the second undo finds nothing. -/
theorem run_refines_timeline_narrow :
    let s := newWorkspace { bound := 1 } none
    let r := s.run IdSource.strokes 0
      [.change (.setInfo (some "A") none), .change (.setInfo (some "B") none), .undo, .undo, .redo]
    r.answers.map (·.map (·.name)) = [some "A", some "B", some "A", none, some "B"] ∧
      r.session.past.length + r.session.future.length ≤ s.bound := by
  intro s r
  obtain ⟨_, _, _, _, _, _, bounded, _⟩ := run_refines_timeline IdSource.strokes 0 (.inl ⟨{ bound := 1 }, none, rfl⟩)
    [.change (.setInfo (some "A") none), .change (.setInfo (some "B") none), .undo, .undo, .redo]
  exact ⟨rfl, bounded⟩

end Session

end Blueprint
