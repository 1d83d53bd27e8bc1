/-
  Blueprint.Proofs.Service.Steps — requests, one step after the other (the routes of `create_app` and the
  methods that they call).

  Meeting a request takes several steps. In some of them something is looked up or worked out, which may
  fail; in others something is written down. A step that fails ends the request, and what was written down
  before it stays. A request that is refused in the end could so leave half of its work behind: the redo
  history emptied, a workspace put into the past, positions or warnings that belong to nothing.

  Proved: the steps, in the order in which they are taken, come to what a request does in one go
  (`run_meet`), and a request that is answered by 400, 404 or 422 leaves everything as it was, since
  nothing that may fail comes after anything that is written down (`desk_of_status`).
-/

import Blueprint.Proofs.Service.Runs

namespace Blueprint

namespace Desk

/-- Steps that are taken on a desk. What is done stays done if a later step fails. -/
abbrev Steps : Type → Type := EStateM Stop Desk

namespace Steps

variable {α β : Type}

/-- Goes on with a result, or stops. -/
def need : Except Stop α → Steps α
  | .ok a => pure a
  | .error why => throw why

def note (f : Session → Session) : Steps Unit := modify fun d => d.withSession (f d.session)

def noteDrawn (drawn : Nat) : Steps Unit := modify fun d => { d with drawn }

def requireWorkspace : Steps Workspace := do need (permitted (← get).session.requireWorkspace)

/-- The open workspace goes to the past, and what is too much there is dropped: one workspace at most, as in the
history of snapshots (`Session.snapshots_commit`). -/
def archive : Steps Unit := do
  match (← get).session.workspace with
  | none => pure ()
  | some ws =>
    note fun s => { s with future := [] }
    note fun s => { s with past := ws :: s.past }
    note fun s => { s with past := s.past.take s.bound }

def commit (ws : Workspace) : Steps Unit := do
  archive
  note fun s => { s with workspace := some ws }
  note fun s => { s with isDirty := true }
  note fun s => { s with changes := s.changes + 1 }

def replace (ws : Workspace) (path : Option Path) : Steps Unit := do
  note fun s => { s with workspace := some ws }
  note fun s => { s with path }
  note fun s => { s with past := [] }
  note fun s => { s with future := [] }
  note fun s => { s with remembered := {} }
  note fun s => { s with isDirty := false }
  note fun s => { s with changes := s.changes + 1 }

/-- Position by position. -/
def rememberEach : List Element → Steps Unit
  | [] => pure ()
  | e :: es => do
    note fun s => { s with remembered := s.remembered.insert e.memoryKey e.position }
    rememberEach es

def remember : Steps Unit := do
  match (← get).session.workspace with
  | none => pure ()
  | some ws => rememberEach ws.elements

/-- One step back; whether there was one. -/
def undo : Steps Bool := do
  match (← get).session.workspace, (← get).session.past with
  | some ws, before :: past =>
    note fun s => { s with future := ws :: s.future }
    note fun s => { s with past }
    note fun s => { s with workspace := some before }
    note fun s => { s with isDirty := true }
    note fun s => { s with changes := s.changes + 1 }
    return true
  | _, _ => return false

/-- One step forward again; whether there was one. -/
def redo : Steps Bool := do
  match (← get).session.workspace, (← get).session.future with
  | some ws, after :: future =>
    note fun s => { s with past := ws :: s.past }
    note fun s => { s with future }
    note fun s => { s with workspace := some after }
    note fun s => { s with isDirty := true }
    note fun s => { s with changes := s.changes + 1 }
    return true
  | _, _ => return false

/-- The workspace in a file; the warnings are noted before it takes the place of the open one. -/
def contents (ids : IdSource) (path : Path) (text : String) : Steps Workspace := do
  if path.isDocument then
    let p ← need (permitted (Dsl.parse ids (← get).drawn text))
    noteDrawn p.drawn
    note fun s => { s with warnings := p.warnings }
    return p.workspace
  else if path.isJson then
    let (ws, drawn) ← need (attempt (Session.readJson ids (← get).drawn path text))
    noteDrawn drawn
    note fun s => { s with warnings := [] }
    return ws
  else throw (.refused (.fault (.unsupportedFile path.kindShown)))

def openFile (ids : IdSource) (path : Path) : Steps Unit := do
  if ← need (((← get).files.has path).mapError .broken) then
    let text ← need (((← get).files.read path).mapError .broken)
    let ws ← contents ids path text
    replace ws.withSomeView (some path)
  else throw (.refused (.fault (.fileNotFound path.text)))

/-- The files change before it is known whether all went well. -/
def writeFile (path : Path) (text : String) : Steps Unit := do
  let (files, done) := (← get).files.save path text
  modify fun d => { d with files }
  need (done.mapError fun a => .ofSaving (.accident a))

def saveFile (asked : Option String) : Steps Json := do
  let workspace ← requireWorkspace
  let path ← need (permitted ((← get).session.destination asked))
  let text ← need ((Session.saved { workspace } path).mapError .ofSaving)
  writeFile path text
  note fun s => { s with path := some path }
  note fun s => { s with isDirty := false }
  return .success [("file_path", .str path.text)]

def importDocument (ids : IdSource) (text : String) : Steps Unit := do
  let p ← need (permitted (Dsl.parse ids (← get).drawn text))
  noteDrawn p.drawn
  note fun s => { s with warnings := p.warnings }
  remember
  commit (Session.restoredIn (← get).session.remembered p.workspace)

/-- The workspace after a step through the history, or the word that there was none. -/
def afterStep (taken : Bool) (nothing : String) : Steps Json := do
  if taken then return .success [("workspace", .ofOption Workspace.toJson (← get).session.workspace)]
  else return .obj [("success", .bool false), ("message", .str nothing)]

/-- All that a request asks for; the body of the answer. -/
def meet (ids : IdSource) : Request → Steps Json
  | .health => do
    return .obj [("status", .str "ok"), ("workspace_open", .bool (← get).session.workspace.isSome)]
  | .state => do return (← get).session.toJson
  | .newWorkspace name => do
    replace (.new ((name.filter (· != "")).getD defaultWorkspaceName) defaultWorkspaceDescription) none
    return .success [("workspace", .ofOption Workspace.toJson (← get).session.workspace)]
  | .openFile path => do
    openFile ids (.ofText path)
    let s := (← get).session
    return .success (("file_path", .ofOption (fun p => .str p.text) s.path) :: openWorkspaceFields s)
  | .saveFile asked => saveFile asked
  | .undo => do afterStep (← undo) "Nothing to undo"
  | .redo => do afterStep (← redo) "Nothing to redo"
  | .edit change => do
    let ws ← requireWorkspace
    let o ← need (permitted (ws.apply ids (← get).drawn change))
    noteDrawn o.drawn
    commit o.workspace
    return .success (editFields (← get).session.workspace change o.subject)
  | .element id => do
    match (← get).session.workspace.bind (·.element? id) with
    | some e => return .success [("element", e.toJson)]
    | none => throw (.refused .noSuchElement)
  | .arrange => do
    let ws ← requireWorkspace
    if ws.elements.isEmpty then throw (.refused .nothingToArrange)
    else
      commit { ws with elements := Grid.arrange ws.elements }
      return .success []
  | .readDocument text => do
    let p ← need (permitted (Dsl.parse ids (← get).drawn text))
    noteDrawn p.drawn
    return .success [("workspace", p.workspace.toJson), ("warnings", .strings p.warnings)]
  | .writeDocument draft => do
    let (ws, drawn) := draft.complete ids (← get).drawn
    let text ← need ((Dsl.document ws).mapError .broken)
    noteDrawn drawn
    return .success [("dsl", .str text)]
  | .checkDocument text =>
    match Dsl.candidateFault? text with
    | some f => return .success [("valid", .bool false), ("error", f.toJson)]
    | none => return .success [("valid", .bool true)]
  | .importDocument text => do
    importDocument ids text
    return .success (openWorkspaceFields (← get).session)
  | .exportDocument => do
    let s := (← get).session
    let text ← need (attempt s.exportDocument)
    return .success [("dsl", .str text), ("filename", .str (documentFileName (s.workspace.elim "" (·.name))))]
  | .validate => do
    let ws ← requireWorkspace
    return .success [("issues", problemsJson ws.problems), ("summary", summaryJson ws.problems)]
  | .vocabulary v => return v.toJson

/-! ## What the steps come to -/

variable {ids : IdSource} {d e : Desk}

theorem run_bind (x : Steps α) (f : α → Steps β) (d : Desk) :
    (x >>= f) d = match x d with
      | .ok a e => f a e
      | .error why e => .error why e := by
  simp only [bind, EStateM.bind]
  cases x d <;> rfl

theorem run_pure (a : α) (d : Desk) : (pure a : Steps α) d = .ok a d := rfl

theorem run_get (d : Desk) : (get : Steps Desk) d = .ok d d := rfl

theorem run_note (f : Session → Session) (d : Desk) : note f d = .ok () (d.withSession (f d.session)) := rfl

theorem run_noteDrawn (drawn : Nat) (d : Desk) : noteDrawn drawn d = .ok () { d with drawn } := rfl

theorem run_need (r : Except Stop α) (d : Desk) :
    need r d = match r with
      | .ok a => .ok a d
      | .error why => .error why d := by
  cases r <;> rfl

theorem run_commit (ws : Workspace) (d : Desk) : commit ws d = .ok () (d.withSession (d.session.commit ws)) := by
  cases h : d.session.workspace with
  | none =>
    simp [commit, archive, run_bind, run_get, run_note, run_pure, h, withSession, Session.commit, Session.archive]
  | some before =>
    simp [commit, archive, run_bind, run_get, run_note, h, withSession, Session.commit, Session.archive]

theorem run_replace (ws : Workspace) (path : Option Path) (d : Desk) :
    replace ws path d = .ok () (d.withSession (d.session.replace ws path)) := rfl

theorem run_rememberEach (es : List Element) (d : Desk) :
    rememberEach es d =
      .ok () (d.withSession { d.session with remembered := Session.rememberEach d.session.remembered es }) := by
  induction es generalizing d with
  | nil => rfl
  | cons e es ih =>
    rw [rememberEach, run_bind, run_note]
    exact ih _

theorem run_remember (d : Desk) : remember d = .ok () (d.withSession d.session.remember) := by
  cases h : d.session.workspace with
  | none => simp [remember, run_bind, run_get, run_pure, h, Session.remember, withSession]
  | some ws => simp [remember, run_bind, run_get, run_rememberEach, h, Session.remember]

theorem run_requireWorkspace (d : Desk) :
    requireWorkspace d = match d.session.workspace with
      | some ws => .ok ws d
      | none => .error (.refused (.fault .noWorkspace)) d := by
  simp only [requireWorkspace, run_bind, run_get, run_need, Session.requireWorkspace]
  cases d.session.workspace <;> rfl

theorem run_undo (d : Desk) :
    undo d = match d.session.undo? with
      | some s => .ok true (d.withSession s)
      | none => .ok false d := by
  simp only [undo, run_bind, run_get, Session.undo?]
  cases d.session.workspace with
  | none => rfl
  | some ws =>
    cases d.session.past with
    | nil => rfl
    | cons before past => rfl

theorem run_redo (d : Desk) :
    redo d = match d.session.redo? with
      | some s => .ok true (d.withSession s)
      | none => .ok false d := by
  simp only [redo, run_bind, run_get, Session.redo?]
  cases d.session.workspace with
  | none => rfl
  | some ws =>
    cases d.session.future with
    | nil => rfl
    | cons before past => rfl

theorem run_contents (ids : IdSource) (path : Path) (text : String) (d : Desk) :
    contents ids path text d = match Session.contents ids d.drawn path text with
      | .ok (ws, warnings, drawn) => .ok ws { d with session := { d.session with warnings }, drawn }
      | .error e => .error (.ofFailure e) d := by
  unfold contents Session.contents
  split
  · simp only [run_bind, run_get, run_need, run_note, run_noteDrawn, run_pure]
    cases Dsl.parse ids d.drawn text <;> rfl
  split
  · simp only [run_bind, run_get, run_need, run_note, run_noteDrawn, run_pure]
    cases Session.readJson ids d.drawn path text <;> rfl
  · rfl

theorem run_openFile (ids : IdSource) (path : Path) (d : Desk) :
    openFile ids path d = match attempt (d.session.openFile ids d.drawn d.files path) with
      | .ok (session, drawn) => .ok () { d with session, drawn }
      | .error why => .error why d := by
  simp only [openFile, run_bind, run_get, run_need, Session.openFile]
  cases d.files.has path with
  | error a => rfl
  | ok there =>
    cases there with
    | false => rfl
    | true =>
      simp only [Except.mapError, if_true, run_bind, run_get, run_need, run_contents, run_replace]
      cases d.files.read path with
      | error a => rfl
      | ok text =>
        dsimp only
        cases Session.contents ids d.drawn path text <;> rfl

theorem run_importDocument (ids : IdSource) (text : String) (d : Desk) :
    importDocument ids text d = match permitted (d.session.importDocument ids d.drawn text) with
      | .ok (session, drawn) => .ok () { d with session, drawn }
      | .error why => .error why d := by
  simp only [importDocument, run_bind, run_get, run_need, run_noteDrawn, run_note, run_remember, run_commit,
    Session.importDocument]
  cases Dsl.parse ids d.drawn text <;> rfl

theorem run_saveFile (asked : Option String) (d : Desk) :
    saveFile asked d = match d.save asked with
      | (e, .ok body) => .ok body e
      | (e, .error why) => .error why e := by
  simp only [saveFile, run_bind, run_get, run_requireWorkspace, save, Session.saveFile, Session.requireWorkspace]
  cases opened : d.session.workspace with
  | none => rfl
  | some ws =>
    simp only [run_need]
    cases d.session.destination asked with
    | error f => rfl
    | ok path =>
      simp only [permitted, Except.mapError]
      cases Session.saved { workspace := ws } path with
      | error e => rfl
      | ok text =>
        simp only [writeFile, run_bind, run_get, run_need]
        obtain ⟨files, done⟩ := d.files.save path text
        cases done with
        | error a => rfl
        | ok u =>
          cases u
          rw [← opened]
          rfl

/-- Step by step, a request comes to what it does in one go. -/
theorem run_meet (ids : IdSource) (q : Request) (d : Desk) :
    meet ids q d = match d.fulfil ids q with
      | .ok (e, body) => .ok body e
      | .error why => .error why (d.unmet q) := by
  cases q with
  | health => rfl
  | state => rfl
  | newWorkspace name => rfl
  | openFile path =>
    simp only [meet, fulfil, run_bind, run_openFile]
    cases attempt (d.session.openFile ids d.drawn d.files (.ofText path)) <;> rfl
  | saveFile asked =>
    simp only [meet, fulfil, run_saveFile]
    rcases h : d.save asked with ⟨e, why | body⟩
    · simp [Except.map, unmet, h]
    · rfl
  | undo =>
    simp only [meet, fulfil, run_bind, run_undo]
    cases d.session.undo? <;> rfl
  | redo =>
    simp only [meet, fulfil, run_bind, run_redo]
    cases d.session.redo? <;> rfl
  | edit change =>
    simp only [meet, fulfil, run_bind, run_requireWorkspace, Session.change, Session.requireWorkspace]
    cases d.session.workspace with
    | none => rfl
    | some ws =>
      simp only [run_get, run_need, run_noteDrawn, run_commit, bind, Except.bind]
      cases ws.apply ids d.drawn change <;> rfl
  | element id =>
    simp only [meet, fulfil, run_bind, run_get]
    cases d.session.workspace.bind (·.element? id) <;> rfl
  | arrange =>
    simp only [meet, fulfil, run_bind, run_requireWorkspace, Session.arrange?, Session.requireWorkspace]
    cases d.session.workspace with
    | none => rfl
    | some ws =>
      dsimp only
      cases none : ws.elements.isEmpty with
      | true =>
        simp only [bind, Except.bind, none, if_true]
        rfl
      | false =>
        simp only [Bool.false_eq_true, if_false, run_bind, run_commit]
        simp only [bind, Except.bind, none, Bool.false_eq_true, if_false]
        rfl
  | readDocument text =>
    simp only [meet, fulfil, run_bind, run_get, run_need, run_noteDrawn]
    cases Dsl.parse ids d.drawn text <;> rfl
  | writeDocument draft =>
    simp only [meet, fulfil, run_bind, run_get, run_need, run_noteDrawn]
    cases Dsl.document (draft.complete ids d.drawn).1 <;> rfl
  | checkDocument text =>
    simp only [meet, fulfil]
    cases Dsl.candidateFault? text <;> rfl
  | importDocument text =>
    simp only [meet, fulfil, run_bind, run_importDocument]
    cases permitted (d.session.importDocument ids d.drawn text) <;> rfl
  | exportDocument =>
    simp only [meet, fulfil, run_bind, run_get, run_need]
    cases attempt d.session.exportDocument <;> rfl
  | validate =>
    simp only [meet, fulfil, run_bind, run_requireWorkspace, Session.requireWorkspace]
    cases d.session.workspace <;> rfl
  | vocabulary v => rfl

end Steps

/-! ## Refusals -/

variable {ids : IdSource} {d : Desk}

/-- Files are touched last, so if something else is wrong they are as they were. -/
theorem files_of_saveFile {s : Session} {files after : Files} {asked : Option String} {e : Failure}
    (h : s.saveFile files asked = (after, .error e)) (other : ∀ a, e ≠ .accident a) : after = files := by
  unfold Session.saveFile at h
  split at h
  · cases h
    rfl
  split at h
  · cases h
    rfl
  split at h
  · cases h
    rfl
  split at h
  · cases h
    exact absurd rfl (other _)
  · cases h

theorem unmet_of_refused {q : Request} {r : Refusal} (h : d.fulfil ids q = .error (.refused r))
    (asked : r.status ≠ 500) : d.unmet q = d := by
  cases q with
  | saveFile place =>
    cases saved : d.session.saveFile d.files place with
    | mk files result =>
      cases result with
      | ok done => simp [fulfil, save, saved, Except.map] at h
      | error e =>
        have why : Stop.ofSaving e = .refused r := by simpa [fulfil, save, saved, Except.map] using h
        have other : ∀ a, e ≠ .accident a := by
          rintro a rfl
          cases a <;> simp only [Stop.ofSaving, Stop.ofFailure, Stop.refused.injEq, reduceCtorEq] at why
          exact asked (why ▸ rfl)
        simp only [unmet, save, saved, files_of_saveFile saved other]
  | _ => rfl

/-- Any of these answers is a refusal, for something else than the files. -/
theorem fulfil_of_status {m : Message} {q : Request} (hm : m.request = .ok q)
    (h : (d.receive ids m).2.status ∈ [400, 404, 422]) :
    ∃ r, d.fulfil ids q = .error (.refused r) ∧ d.unmet q = d := by
  -- 200 answers what is met and 500 an accident; a refusal by 500 may come after the files were touched.
  have other : (d.receive ids m).2.status ≠ 500 ∧ (d.receive ids m).2.status ≠ 200 := by
    refine ⟨fun same => ?_, fun same => ?_⟩
    · rw [same] at h
      exact absurd h (by decide)
    · rw [same] at h
      exact absurd h (by decide)
  simp only [receive, hm] at other
  cases answer : (d.serve ids q).2.sent with
  | met body => exact absurd (by rw [answer]; rfl) other.2
  | broken a => exact absurd (by rw [answer]; rfl) other.1
  | refused r =>
    have refused := Response.eq_of_sent_eq_refused answer
    rw [answer] at other
    have unmet : d.fulfil ids q = .error (.refused r) := by
      unfold serve at refused
      split at refused
      · next why found => rw [found, Response.refused.inj refused]
      · cases refused
      · cases refused
    exact ⟨r, unmet, unmet_of_refused unmet other.1⟩

theorem receive_of_status {m : Message} (h : (d.receive ids m).2.status ∈ [400, 404, 422]) :
    (d.receive ids m).1 = d := by
  cases hm : m.request with
  | error u => rw [receive, hm]
  | ok q =>
    obtain ⟨r, unmet, kept⟩ := fulfil_of_status hm h
    simp only [receive, hm, serve, unmet, kept]

/-- A request that is refused for what it asks changes nothing: not in one go, and not step by step either. -/
theorem desk_of_status {m : Message} (h : (d.receive ids m).2.status ∈ [400, 404, 422]) :
    (d.receive ids m).1 = d ∧ ∀ q, m.request = .ok q → ∃ r, Steps.meet ids q d = .error (.refused r) d := by
  refine ⟨receive_of_status h, fun q hm => ?_⟩
  obtain ⟨r, unmet, kept⟩ := fulfil_of_status hm h
  exact ⟨r, by rw [Steps.run_meet, unmet, kept]⟩

/-- Two people, of whom the second is taken back. -/
def secondThoughts : Desk :=
  Desk.after IdSource.strokes {}
    [sending .post "/api/workspace/new" [], sending .post "/api/elements" [("kind", .str "person")],
      sending .post "/api/elements" [("kind", .str "person")], sending .post "/api/undo" []]

/-- The first of them is to be put inside itself. -/
def intoItself : Message := sending .patch "/api/elements/i" [("parent_id", .str "i")]

theorem desk_of_status_intoItself :
    (secondThoughts.session.past.length, secondThoughts.session.future.length) = (1, 1) ∧
      (secondThoughts.receive IdSource.strokes intoItself).2.status = 400 ∧
        (secondThoughts.receive IdSource.strokes intoItself).1 = secondThoughts := by
  have refused : (secondThoughts.receive IdSource.strokes intoItself).2.status = 400 := by decide +kernel
  exact ⟨by decide +kernel, refused, (desk_of_status (by rw [refused]; decide)).1⟩

end Desk

end Blueprint
