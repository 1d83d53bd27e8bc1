/-
  Blueprint.Proofs.Session.Recorded — where the elements of a document stand that is imported behind any run
  (`remember_positions` and then `import_dsl`).

  A session remembers positions under one text for name and kind, and the memory outlives what it was taken
  from: an element that is deleted, renamed or undone is still remembered as it stood when a document was
  imported or its positions were asked for. Only another workspace in the place of the open one clears it.
  `Recording` goes along with a run and keeps the workspaces that were recorded since then, latest first;
  no call reads them.

  Proved: what a call does to the memory depends on its name and on whether it goes well
  (`remembered_call`); so what is remembered behind a run is where the latest recorded workspace that has an
  element of a name and kind has the last of them (`remembers_run`); and an import is the document that was
  read with its elements there (`call_import`).
-/

import Blueprint.Proofs.Session.Every
import Blueprint.Proofs.Session.Remembered
import Blueprint.Session.Call

namespace Blueprint

/-- Where the first of these workspaces that has elements with this one's name and kind has the last of them. -/
def lastPlace? (recorded : List Workspace) (e : Element) : Option Position :=
  recorded.findSome? fun ws => (lastLike? ws.elements e).map (·.position)

theorem exists_of_lastPlace? {recorded : List Workspace} {e : Element} {place : Position}
    (h : lastPlace? recorded e = some place) :
    ∃ ws ∈ recorded, ∃ f ∈ ws.elements, f.name = e.name ∧ f.kind = e.kind ∧ f.position = place := by
  obtain ⟨ws, mem, found⟩ := List.exists_of_findSome?_eq_some h
  obtain ⟨f, last, position⟩ := Option.map_eq_some_iff.1 found
  have like : f.name = e.name ∧ f.kind = e.kind := by simpa using List.find?_some last
  exact ⟨ws, mem, f, List.mem_reverse.1 (List.mem_of_find?_eq_some last), like.1, like.2, position⟩

namespace Session

variable {ids : IdSource} {drawn : Nat} {s t : Session}

/-- What a session remembers is where the last elements of a name and kind stood in these workspaces. -/
def Remembers (s : Session) (recorded : List Workspace) : Prop :=
  ∀ e : Element, s.remembered.find? e.memoryKey = lastPlace? recorded e

theorem remembers_nil (h : s.remembered = {}) : s.Remembers [] := by
  intro e
  rw [h]
  rfl

/-- The open workspace is recorded in front of the others. -/
theorem Remembers.remember {recorded : List Workspace} (h : s.Remembers recorded) :
    s.remember.Remembers (s.workspace.toList ++ recorded) := by
  intro e
  unfold Session.remember
  cases s.workspace with
  | none => exact h e
  | some ws =>
    have here := find?_rememberEach s.remembered ws.elements e
    rw [h e] at here
    simp only [here, Option.toList_some, List.singleton_append, lastPlace?, List.findSome?_cons]
    cases (lastLike? ws.elements e).map (·.position) <;> rfl

theorem remembered_commit (s : Session) (ws : Workspace) : (s.commit ws).remembered = s.remembered := by
  unfold commit archive
  cases s.workspace <;> rfl

theorem remembered_undo? (h : s.undo? = some t) : t.remembered = s.remembered := by
  unfold undo? at h
  split at h <;> cases h
  rfl

theorem remembered_redo? (h : s.redo? = some t) : t.remembered = s.remembered := by
  unfold redo? at h
  split at h <;> cases h
  rfl

theorem remembered_arrange? (h : s.arrange? = .ok (some t)) : t.remembered = s.remembered := by
  obtain ⟨ws, _, h⟩ := bind_eq_ok.1 h
  have arranged := Except.ok.inj h
  split at arranged <;> cases arranged
  exact remembered_commit s _

theorem remembered_openFile {files : Files} {p : Path} {n : Nat} (h : s.openFile ids drawn files p = .ok (t, n)) :
    t.remembered = {} := by
  unfold openFile at h
  split at h
  · cases h
  · cases h
  split at h
  · cases h
  obtain ⟨_, _, h⟩ := bind_eq_ok.1 h
  cases h
  rfl

theorem importDocument_eq {text : String} {p : Dsl.Parsed} (read : Dsl.parse ids drawn text = .ok p) :
    s.importDocument ids drawn text =
      .ok ({ s.remember with warnings := p.warnings }.commit (restoredIn s.remember.remembered p.workspace), p.drawn) := by
  have same : { s with warnings := p.warnings }.remember = { s.remember with warnings := p.warnings } := by
    obtain ⟨_ | ws, _⟩ := s <;> rfl
  rw [importDocument, read]
  exact congrArg (fun u : Session => Except.ok (u.commit (restoredIn u.remembered p.workspace), p.drawn)) same

theorem remembered_importDocument {text : String} {n : Nat} (h : s.importDocument ids drawn text = .ok (t, n)) :
    t.remembered = s.remember.remembered := by
  obtain ⟨p, read, _⟩ := bind_eq_ok.1 h
  cases (importDocument_eq read).symm.trans h
  exact remembered_commit _ _

end Session

/-! ## What a call does to the memory -/

/-- What an operation does to the memory where it goes well. -/
inductive Bearing where
  /-- Another workspace takes the place of the open one. -/
  | forgets
  /-- The open workspace is recorded. -/
  | records
  | leaves

def Bearing.ofOperation : String → Bearing
  | "new_workspace" | "open_workspace" => .forgets
  | "remember_positions" | "import_dsl" => .records
  | _ => .leaves

/-- The memory of a session after an operation has gone well. -/
def Bearing.memory (s : Session) : Bearing → Dictionary Position
  | .forgets => {}
  | .records => s.remember.remembered
  | .leaves => s.remembered

theorem faulty_eq_ok {α : Type} {r : Except Fault α} {a : α} : faulty r = .ok a ↔ r = .ok a := by
  have mapped : faulty r = r.mapError .fault := by cases r <;> rfl
  rw [mapped, mapError_eq_ok]

namespace Bench

variable {ids : IdSource} {b after : Bench} {name : String} {args : Json.Fields} {reply : Reply}

theorem remembered_edit (h : b.edit ids name args = .ok (after, reply)) :
    after.desk.session.remembered = b.desk.session.remembered := by
  obtain ⟨l, _, h⟩ := bind_eq_ok.1 h
  obtain ⟨o, _, h⟩ := bind_eq_ok.1 h
  cases h
  exact Session.remembered_commit _ _

theorem remembered_perform (h : b.perform ids name args = .ok (after, reply)) :
    after.desk.session.remembered = (Bearing.ofOperation name).memory b.desk.session := by
  unfold perform at h
  split at h
  case h_1 => cases h; rfl
  case h_2 =>
    split at h
    · cases h
      rfl
    · obtain ⟨_, _, h⟩ := bind_eq_ok.1 h
      cases h
      rfl
  case h_3 =>
    obtain ⟨_, _, h⟩ := bind_eq_ok.1 h
    obtain ⟨⟨s, n⟩, opened, h⟩ := bind_eq_ok.1 h
    cases h
    exact Session.remembered_openFile opened
  case h_4 => cases h; rfl
  case h_5 =>
    obtain ⟨_, _, h⟩ := bind_eq_ok.1 h
    obtain ⟨⟨s, n⟩, imported, h⟩ := bind_eq_ok.1 h
    cases h
    exact Session.remembered_importDocument (faulty_eq_ok.1 imported)
  case h_6 =>
    obtain ⟨_, _, h⟩ := bind_eq_ok.1 h
    cases h
    rfl
  case h_7 =>
    obtain ⟨⟨c, _⟩, edited, h⟩ := bind_eq_ok.1 h
    cases h
    exact remembered_edit edited
  case h_8 =>
    obtain ⟨arranged, did, h⟩ := bind_eq_ok.1 h
    cases arranged with
    | none => cases h; rfl
    | some s =>
      cases h
      exact Session.remembered_arrange? (faulty_eq_ok.1 did)
  case h_9 =>
    obtain ⟨_, _, h⟩ := bind_eq_ok.1 h
    cases h
    rfl
  case h_10 => cases h; rfl
  case h_11 =>
    have leaves : Bearing.ofOperation name = .leaves := by
      unfold Bearing.ofOperation
      split <;> first | contradiction | rfl
    rw [leaves]
    exact remembered_edit h

theorem remembered_stepped (b after : Bench) (same : after.desk.session.remembered = b.desk.session.remembered) :
    (b.stepped ids after).1.desk.session.remembered = b.desk.session.remembered := by
  unfold stepped
  split
  · exact same
  · rfl

theorem remembered_undo (b : Bench) : (b.undo ids).1.desk.session.remembered = b.desk.session.remembered := by
  unfold undo
  split
  · rfl
  · next undone => exact remembered_stepped b _ (Session.remembered_undo? undone)

theorem remembered_redo (b : Bench) : (b.redo ids).1.desk.session.remembered = b.desk.session.remembered := by
  unfold redo
  split
  · rfl
  · next redone => exact remembered_stepped b _ (Session.remembered_redo? redone)

theorem remembered_save (b : Bench) (args : Json.Fields) :
    (b.save args).1.desk.session.remembered = b.desk.session.remembered := by
  unfold save
  split
  · rfl
  · rfl
  · split
    · next saved =>
      rw [Session.eq_of_saveFile saved]
      rfl
    · rfl

/-- A call that fails leaves the memory alone, and any other does what its name says. -/
theorem remembered_call (ids : IdSource) (b : Bench) (name : String) (args : Json.Fields) :
    (b.call ids name args).1.desk.session.remembered =
      match (b.call ids name args).2 with
      | .ok _ => (Bearing.ofOperation name).memory b.desk.session
      | .error _ => b.desk.session.remembered := by
  have either : ∀ {outcome : Except Failure Reply} {m : Dictionary Position}, m = b.desk.session.remembered →
      m = match outcome with | .ok _ => b.desk.session.remembered | .error _ => b.desk.session.remembered := by
    intro outcome m h
    cases outcome <;> exact h
  unfold call
  split
  · split
    · rfl
    · split
      · exact either (remembered_save b args)
      · exact either (remembered_undo b)
      · exact either (remembered_redo b)
      · cases done : b.perform ids name args with
        | error e => rfl
        | ok outcome => exact remembered_perform done
  · rfl

end Bench

/-! ## Runs -/

structure Call where
  name : String
  args : Json.Fields := []

/-- A bench, and the workspaces that were recorded since the open one took the place of another, latest
first. -/
structure Recording where
  bench : Bench
  recorded : List Workspace := []

namespace Recording

variable {ids : IdSource} {r : Recording}

def step (ids : IdSource) (r : Recording) (c : Call) : Recording :=
  match r.bench.call ids c.name c.args with
  | (after, .error _) => { r with bench := after }
  | (after, .ok _) =>
    match Bearing.ofOperation c.name with
    | .forgets => { bench := after }
    | .records => { bench := after, recorded := r.bench.desk.session.workspace.toList ++ r.recorded }
    | .leaves => { r with bench := after }

def run (ids : IdSource) (r : Recording) (calls : List Call) : Recording := calls.foldl (step ids) r

theorem remembers_step (h : r.bench.desk.session.Remembers r.recorded) (c : Call) :
    (r.step ids c).bench.desk.session.Remembers (r.step ids c).recorded := by
  have memory := Bench.remembered_call ids r.bench c.name c.args
  unfold step
  cases called : r.bench.call ids c.name c.args with
  | mk after outcome =>
    rw [called] at memory
    cases outcome with
    | error f =>
      intro e
      rw [memory]
      exact h e
    | ok reply =>
      cases bearing : Bearing.ofOperation c.name with
      | forgets =>
        rw [bearing] at memory
        exact Session.remembers_nil memory
      | records =>
        rw [bearing] at memory
        intro e
        rw [memory]
        exact h.remember e
      | leaves =>
        rw [bearing] at memory
        intro e
        rw [memory]
        exact h e

/-- What is remembered behind a run is what was recorded along it. -/
theorem remembers_run (h : r.bench.desk.session.Remembers r.recorded) (calls : List Call) :
    (r.run ids calls).bench.desk.session.Remembers (r.run ids calls).recorded := by
  induction calls generalizing r with
  | nil => exact h
  | cons c calls ih => exact ih (remembers_step h c)

/-- Behind any run, a document that is imported takes the place of the open workspace as it was read, but each
element stands where the last one with its name and kind did: in the open workspace, or else in the latest one
that was recorded. It stands where the document says only if none of them has one. -/
theorem call_import (ids : IdSource) {b : Bench} (fresh : b.desk.session.remembered = {}) (calls : List Call)
    (text : String) :
    let r := run ids { bench := b } calls
    let earlier := r.bench.desk.session.workspace.toList ++ r.recorded
    let called := r.bench.call ids "import_dsl" [("dsl", .str text)]
    (∀ f, Dsl.parse ids r.bench.desk.drawn text = .error f → called = (r.bench, .error (.fault f))) ∧
      (∀ p, Dsl.parse ids r.bench.desk.drawn text = .ok p →
        called.2 = .ok .workspace ∧
          called.1.desk.session.workspace = some
            { p.workspace with
              elements := p.workspace.elements.map fun e =>
                { e with position := (lastPlace? earlier e).getD e.position } }) ∧
      ∀ e place, lastPlace? earlier e = some place →
        ∃ ws ∈ earlier, ∃ f ∈ ws.elements, f.name = e.name ∧ f.kind = e.kind ∧ f.position = place := by
  intro r earlier called
  have memory : r.bench.desk.session.remember.Remembers earlier :=
    (remembers_run (r := { bench := b }) (Session.remembers_nil fresh) calls).remember
  have imports : called = r.bench.settled do
      let read ← faulty (r.bench.desk.session.importDocument ids r.bench.desk.drawn text)
      return (r.bench.committed { r.bench.desk with session := read.1, drawn := read.2 } {}, .workspace) := rfl
  refine ⟨fun f read => ?_, fun p read => ?_, fun e place => exists_of_lastPlace?⟩
  · rw [imports, Session.importDocument, read]
    rfl
  · have restored : ∀ e, Session.restored r.bench.desk.session.remember.remembered e =
        { e with position := (lastPlace? earlier e).getD e.position } := by
      intro e
      rw [Session.restored, memory e]
    rw [imports, Session.importDocument_eq read]
    refine ⟨rfl, ?_⟩
    simp only [← restored]
    rfl

/-- Ann is added, her position is asked for, and she goes again. -/
def annGone : List Call :=
  [{ name := "new_workspace" },
    { name := "add_element"
      args :=
        [("kind", .str "person"), ("name", .str "Ann"),
          ("position", .obj [("x", .num (.int 500)), ("y", .num (.int 300))])] },
    { name := "remember_positions" }, { name := "undo" }]

/-- Ann, and another one whose name is what she is remembered under. -/
def annAgain : String := "workspace \x7b\n  model \x7b\n    a = person \"Ann\"\n    b = person \"Ann|person\"\n  \x7d\n\x7d"

/-- Ann comes back to where she was; the other one stands where the document has it. -/
theorem call_import_annAgain :
    ({} : Bench).desk.session.remembered = {} ∧
      ∃ ws, ((run IdSource.strokes { bench := {} } annGone).bench.call IdSource.strokes "import_dsl"
          [("dsl", .str annAgain)]).1.desk.session.workspace = some ws ∧
        ws.elements.map (fun e => (e.name, e.position)) =
          [("Ann", ⟨.ofInt 500, .ofInt 300⟩), ("Ann|person", ⟨.ofInt 320, .ofInt 40⟩)] := by
  have balanced : (Dsl.braceCounts annAgain).1 = (Dsl.braceCounts annAgain).2 := by decide +kernel
  have read := Dsl.parse_of_balanced IdSource.strokes
    (run IdSource.strokes { bench := {} } annGone).bench.desk.drawn balanced
  have imported := ((call_import IdSource.strokes (b := {}) rfl annGone annAgain).2.1 _ read).2
  exact ⟨rfl, _, imported, by decide +kernel⟩

end Recording

end Blueprint
