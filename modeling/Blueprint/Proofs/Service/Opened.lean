/-
  Blueprint.Proofs.Service.Opened — how it ends to open a JSON file (`open_workspace`, over
  `Workspace.from_json_dict`).

  What a JSON file says takes the place of the open workspace. If its text is no JSON, or if misfits are found
  in it, the file is refused, and that is before anything is written down. But a value that trips the reading
  is no misfit, and nothing turns the accident that it comes to into a refusal of the file.

  Proved: whatever is open and whatever text the file holds, either the workspace in it is open, with a view and
  no history, or the file is refused and all is as it was, unless something in it trips the reading; then the
  accident is the answer, and all is as it was, too (`opensCleanly_iff`). That an empty list does trip it
  (`not_opensCleanly_emptyList`).
-/

import Blueprint.Proofs.Schema.Shape
import Blueprint.Proofs.Service.Steps
import Blueprint.Session.Call

namespace Blueprint

open WorkspaceDraft

theorem Path.not_isDocument_of_isJson {p : Path} (h : p.isJson = true) : p.isDocument = false := by
  simp only [isJson, hasSuffix, List.contains_cons, List.contains_nil, Bool.or_false, beq_iff_eq] at h
  rw [isDocument, hasSuffix, h]
  decide

theorem Files.has_of_read {files : Files} {p : Path} {text : String} (h : files.read p = .ok text) :
    files.has p = .ok true := by
  obtain ⟨content, found, _⟩ := bind_eq_ok.1 h
  obtain ⟨place, reached, found⟩ := bind_eq_ok.1 found
  rw [has, reached]
  cases there : files.node? place with
  | none =>
    rw [there] at found
    cases found
  | some node => simp only [there, Option.isSome_some]

namespace Session

variable {ids : IdSource} {drawn : Nat} {files : Files} {s : Session} {p : Path} {text : String} {j : Json}

/-! ## The text of the file -/

theorem readJson_of_none (noJson : Json.read? text = none) :
    readJson ids drawn p text = .error (.fault (.invalidFile p.text)) := by
  rw [readJson, noJson]

theorem readJson_of_schema {issues : List Issue} (value : Json.read? text = some j)
    (misfit : Workspace.read ids drawn j = .error (.schema issues)) :
    readJson ids drawn p text = .error (.fault (.invalidFile p.text)) := by
  rw [readJson, value]
  simp only [misfit]

theorem readJson_of_ok {r : Workspace × Nat} (value : Json.read? text = some j)
    (read : Workspace.read ids drawn j = .ok r) : readJson ids drawn p text = .ok r := by
  rw [readJson, value]
  simp only [read]

theorem readJson_of_trips {a : Accident} (value : Json.read? text = some j) (trips : Trips j a) :
    readJson ids drawn p text = .error (.accident a) := by
  rw [readJson, value]
  simp only [Workspace.read, read_of_trips trips, Except.map]

theorem openFile_of_isJson (there : files.read p = .ok text) (json : p.isJson = true) :
    s.openFile ids drawn files p = (readJson ids drawn p text).map fun r =>
      ({ s with warnings := [] }.replace r.1.withSomeView (some p), r.2) := by
  rw [openFile, Files.has_of_read there]
  simp only [there, contents, Path.not_isDocument_of_isJson json, json, Bool.false_eq_true, if_false, if_true]
  cases readJson ids drawn p text <;> rfl

/-- What a session is like when a workspace has just been opened from a path. -/
structure HasOpened (s : Session) (ws : Workspace) (p : Path) : Prop where
  workspace : s.workspace = some ws
  someView : ws.views ≠ []
  path : s.path = some p
  past : s.past = []
  future : s.future = []
  saved : s.isDirty = false
  remembered : s.remembered = {}

theorem hasOpened_replace (s : Session) (ws : Workspace) (p : Path) :
    (s.replace ws.withSomeView (some p)).HasOpened ws.withSomeView p :=
  ⟨rfl, ws.views_withSomeView_ne_nil, rfl, rfl, rfl, rfl, rfl⟩

end Session

namespace Bench

variable {ids : IdSource} {b : Bench} {path text : String}

/-- The call that opens a file. -/
def openAt (ids : IdSource) (b : Bench) (path : String) : Bench × Except Failure Reply :=
  b.call ids "open_workspace" [("file_path", .str path)]

theorem openAt_eq (ids : IdSource) (b : Bench) (path : String) :
    b.openAt ids path = match b.desk.session.openFile ids b.desk.drawn b.desk.files (.ofText path) with
      | .ok (session, drawn) => ({ desk := { b.desk with session, drawn } }, .ok .workspace)
      | .error e => (b, .error e) := by
  have given : pathOf (argument [("file_path", .str path)] "file_path") = .ok path := rfl
  have performs : b.openAt ids path = b.settled (b.perform ids "open_workspace" [("file_path", .str path)]) := rfl
  rw [performs, perform]
  simp only [given, bind, Except.bind]
  cases b.desk.session.openFile ids b.desk.drawn b.desk.files (.ofText path) <;> rfl

/-- Step by step, with nothing taken back, the same comes of the desk. -/
theorem steps_openFile (ids : IdSource) (b : Bench) (path : String) :
    Desk.Steps.openFile ids (.ofText path) b.desk = match b.openAt ids path with
      | (after, .ok _) => .ok () after.desk
      | (after, .error e) => .error (.ofFailure e) after.desk := by
  rw [openAt_eq, Desk.Steps.run_openFile]
  cases b.desk.session.openFile ids b.desk.drawn b.desk.files (.ofText path) <;> rfl

/-- How it should end to open a JSON file with this text: the workspace in it is open, or the file is refused,
because there is none in it, and all is as it was. -/
inductive EndsWell (ids : IdSource) (b : Bench) (p : Path) (text : String) : Bench × Except Failure Reply → Prop
  | opened {j : Json} {ws : Workspace} {n : Nat} {s : Session} (value : Json.read? text = some j)
      (read : Workspace.read ids b.desk.drawn j = .ok (ws, n)) (installed : s.HasOpened ws.withSomeView p) :
      EndsWell ids b p text ({ desk := { b.desk with session := s, drawn := n } }, .ok .workspace)
  | refused
      (unfit : ∀ j, Json.read? text = some j → ∃ issues, Workspace.read ids b.desk.drawn j = .error (.schema issues)) :
      EndsWell ids b p text (b, .error (.fault (.invalidFile p.text)))

def OpensCleanly (ids : IdSource) (b : Bench) (path text : String) : Prop :=
  EndsWell ids b (.ofText path) text (b.openAt ids path)

theorem openAt_of_trips {j : Json} {a : Accident} (there : b.desk.files.read (.ofText path) = .ok text)
    (json : (Path.ofText path).isJson = true) (value : Json.read? text = some j) (trips : Trips j a) :
    b.openAt ids path = (b, .error (.accident a)) := by
  rw [openAt_eq, Session.openFile_of_isJson there json, Session.readJson_of_trips value trips]
  rfl

theorem not_opensCleanly_of_accident {a : Accident} (h : b.openAt ids path = (b, .error (.accident a))) :
    ¬ b.OpensCleanly ids path text := by
  intro clean
  rw [OpensCleanly] at clean
  generalize b.openAt ids path = outcome at h clean
  cases clean with
  | opened _ _ _ => cases congrArg Prod.snd h
  | refused _ => cases congrArg Prod.snd h

theorem opensCleanly_of_not_trips (there : b.desk.files.read (.ofText path) = .ok text)
    (json : (Path.ofText path).isJson = true) (smooth : ∀ j, Json.read? text = some j → ∀ a, ¬ Trips j a) :
    b.OpensCleanly ids path text := by
  rw [OpensCleanly, openAt_eq, Session.openFile_of_isJson there json]
  cases value : Json.read? text with
  | none =>
    rw [Session.readJson_of_none value]
    exact .refused fun j some => nomatch value.symm.trans some
  | some j =>
    rcases read_cases j with ⟨d, found⟩ | ⟨issues, found⟩ | ⟨a, _, trips⟩
    · have read : Workspace.read ids b.desk.drawn j = .ok (d.complete ids b.desk.drawn) := by
        rw [Workspace.read, found]
        rfl
      rw [Session.readJson_of_ok value read]
      exact .opened value read (Session.hasOpened_replace _ _ _)
    · have misfit : Workspace.read ids b.desk.drawn j = .error (.schema issues) := by
        rw [Workspace.read, found]
        rfl
      rw [Session.readJson_of_schema value misfit]
      refine .refused fun i some => ?_
      cases value.symm.trans some
      exact ⟨issues, misfit⟩
    · exact absurd trips (smooth j value a)

/-- Whatever is open and whatever text a JSON file holds, it ends well to open it if and only if the value in it,
if there is one, does not trip the reading. If it does, the accident that it comes to is the answer, and all is as
it was. Nothing has to be taken back for that: the steps, one after the other, leave the same desk. -/
theorem opensCleanly_iff (ids : IdSource) (there : b.desk.files.read (.ofText path) = .ok text)
    (json : (Path.ofText path).isJson = true) :
    (b.OpensCleanly ids path text ↔ ∀ j, Json.read? text = some j → ∀ a, ¬ Trips j a) ∧
      (∀ j a, Json.read? text = some j → Trips j a → b.openAt ids path = (b, .error (.accident a))) ∧
        Desk.Steps.openFile ids (.ofText path) b.desk = match b.openAt ids path with
          | (after, .ok _) => .ok () after.desk
          | (after, .error e) => .error (.ofFailure e) after.desk := by
  refine ⟨⟨fun clean j value a trips => ?_, opensCleanly_of_not_trips there json⟩,
    fun j a value trips => openAt_of_trips there json value trips, steps_openFile ids b path⟩
  exact not_opensCleanly_of_accident (openAt_of_trips there json value trips) clean

/-! ## Two files -/

/-- A person, as an older program has written her. -/
def annText : String := "\x7b\"elements\": [\x7b\"type\": \"person\", \"name\": \"Ann\"\x7d]\x7d"

/-- A workspace is open and has been changed; one file says another, and one is an empty list. -/
def drawer : Bench :=
  { desk :=
      { session := (Session.newWorkspace {} none).commit (.new "Draft" "")
        files := { entries := [(["ann.json"], .file (.text annText)), (["list.json"], .file (.text "[]"))] } } }

theorem opensCleanly_iff_annText :
    drawer.desk.files.read (.ofText "ann.json") = .ok annText ∧ (Path.ofText "ann.json").isJson = true ∧
      drawer.OpensCleanly IdSource.strokes "ann.json" annText := by
  have there : drawer.desk.files.read (.ofText "ann.json") = .ok annText := by decide +kernel
  have json : (Path.ofText "ann.json").isJson = true := by decide +kernel
  have fits : (Json.read? annText).all fun j => (WorkspaceDraft.read j).isOk := by decide +kernel
  refine ⟨there, json, (opensCleanly_iff IdSource.strokes there json).1.2 fun j value a trips => ?_⟩
  rw [value, Option.all_some, read_of_trips trips] at fits
  cases fits

/-- An empty list is no workspace, and it is not refused. -/
theorem not_opensCleanly_emptyList :
    drawer.desk.files.read (.ofText "list.json") = .ok "[]" ∧ (Path.ofText "list.json").isJson = true ∧
      Json.read? "[]" = some (.arr []) ∧
        drawer.openAt IdSource.strokes "list.json" = (drawer, .error (.accident .noFields)) ∧
          ¬ drawer.OpensCleanly IdSource.strokes "list.json" "[]" := by
  have there : drawer.desk.files.read (.ofText "list.json") = .ok "[]" := by decide +kernel
  have json : (Path.ofText "list.json").isJson = true := by decide +kernel
  have value : Json.read? "[]" = some (.arr []) := by cbv
  have accident : drawer.openAt IdSource.strokes "list.json" = (drawer, .error (.accident .noFields)) :=
    openAt_of_trips there json value (.noFields fun _ => nofun)
  exact ⟨there, json, value, accident, not_opensCleanly_of_accident accident⟩

end Bench

end Blueprint
