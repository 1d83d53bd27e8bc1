/-
  Blueprint.Proofs.Session.Reopened — which documents a session can take back (`save_workspace` and then
  `open_workspace`).

  A document that is saved is the document of the open workspace, and so is one that is exported. Reading
  the file again changes no brace, and it is the braces alone that decide whether a document is taken.

  Proved: what a session saves it can open again, and what it exports it can import, if and only if the
  braces in the texts of the workspace balance (`taken_back_iff`). That a person's name can keep a saved
  workspace from being opened (`not_taken_back_sketch`).
-/

import Blueprint.Proofs.Dsl.Braces
import Blueprint.Proofs.Dsl.Soundness
import Blueprint.Proofs.Storage.Files
import Blueprint.Session.Storage

namespace Blueprint

open Text Dsl

namespace Session

variable {ids : IdSource} {drawn : Nat} {files after : Files} {s t : Session} {p : Path} {ws : Workspace} {text : String}

theorem count_normalizeNewlines {c : Char} (notReturn : c ≠ '\r') (notFeed : c ≠ '\n') (cs : List Char) :
    (normalizeNewlines cs).count c = cs.count c := by
  fun_induction normalizeNewlines cs with
  | case1 => rfl
  | case2 cs ih => simp [ih, notReturn.symm, notFeed.symm]
  | case3 d cs _ ih =>
    by_cases same : d = '\r'
    · simp [same, ih, notReturn.symm, notFeed.symm]
    · rw [if_neg same, List.count_cons, List.count_cons, ih]

theorem braceCounts_normalizeNewlines (text : String) :
    braceCounts (String.ofList (normalizeNewlines text.toList)) = braceCounts text := by
  simp only [braceCounts, String.toList_ofList]
  rw [count_normalizeNewlines (by decide) (by decide), count_normalizeNewlines (by decide) (by decide)]

/-! ## Saving and opening -/

theorem exists_contents_iff (h : p.isDocument = true) :
    (∃ r, contents ids drawn p text = .ok r) ↔ (braceCounts text).1 = (braceCounts text).2 := by
  rw [← exists_parse_iff ids drawn text, contents, if_pos h]
  cases parse ids drawn text with
  | error f => exact ⟨fun ⟨_, read⟩ => (nomatch read), fun ⟨_, read⟩ => (nomatch read)⟩
  | ok d => exact ⟨fun _ => ⟨d, rfl⟩, fun _ => ⟨_, rfl⟩⟩

theorem exists_openFile_iff (there : files.has p = .ok true) (read : files.read p = .ok text)
    (h : p.isDocument = true) :
    (∃ r, openFile ids drawn files s p = .ok r) ↔ (braceCounts text).1 = (braceCounts text).2 := by
  rw [← @exists_contents_iff ids drawn p text h, openFile, there]
  simp only [read]
  cases contents ids drawn p text with
  | error f => exact ⟨fun ⟨_, read⟩ => (nomatch read), fun ⟨_, read⟩ => (nomatch read)⟩
  | ok r => exact ⟨fun _ => ⟨r, rfl⟩, fun _ => ⟨_, rfl⟩⟩

/-- A document that was saved is that of the open workspace. -/
theorem save_of_saveFile (opened : s.workspace = some ws) (plain : ∀ v ∈ ws.views, v.name ≠ gap)
    (h : p.isDocument = true) {asked : Option String} {r : Session}
    (saved : s.saveFile files asked = (after, .ok (r, p))) :
    ∃ text, document ws = .ok text ∧ files.save p text = (after, .ok ()) := by
  have current : s.requireWorkspace = .ok ws := by rw [requireWorkspace, opened]
  unfold saveFile at saved
  simp only [current] at saved
  split at saved
  · cases saved
  · next q _ =>
    split at saved
    · cases saved
    · next text written =>
      split at saved
      · cases saved
      · next done =>
        obtain ⟨rfl, rest⟩ := Prod.mk.inj saved
        obtain ⟨_, rfl⟩ := Prod.mk.inj (Except.ok.inj rest)
        refine ⟨text, ?_, done⟩
        rw [Session.saved, if_pos h, Overlaid.document_of_plain plain] at written
        split at written
        · next document => rw [document, Except.ok.inj written]
        · cases written

theorem exportDocument_eq (opened : s.workspace = some ws) (plain : ∀ v ∈ ws.views, v.name ≠ gap)
    (written : document ws = .ok text) : s.exportDocument = .ok text := by
  have current : s.requireWorkspace = .ok ws := by rw [requireWorkspace, opened]
  rw [exportDocument, current]
  simp only [Overlaid.document_of_plain plain, written]

theorem exists_importDocument_iff :
    (∃ r, importDocument ids drawn s text = .ok r) ↔ (braceCounts text).1 = (braceCounts text).2 := by
  rw [← exists_parse_iff ids drawn text, importDocument]
  cases parse ids drawn text with
  | error f => exact ⟨fun ⟨_, read⟩ => (nomatch read), fun ⟨_, read⟩ => (nomatch read)⟩
  | ok d => exact ⟨fun _ => ⟨d, rfl⟩, fun _ => ⟨_, rfl⟩⟩

/-- What is written of a workspace is read, imported and opened again if and only if the braces in its texts
balance. -/
theorem taken_back_iff (ids : IdSource) (drawn : Nat) (finite : HasFinitePositions ws.elements) :
    ∃ text, document ws = .ok text ∧ ((∃ d, parse ids drawn text = .ok d) ↔ HasBalancedTexts ws) ∧
      ∀ s : Session, s.workspace = some ws → (∀ v ∈ ws.views, v.name ≠ gap) →
        (s.exportDocument = .ok text ∧
          ∀ t : Session, (∃ r, t.importDocument ids drawn text = .ok r) ↔ HasBalancedTexts ws) ∧
        ∀ files asked after r p, s.saveFile files asked = (after, .ok (r, p)) → p.isDocument = true →
          ∀ t : Session, (∃ u, t.openFile ids drawn after p = .ok u) ↔ HasBalancedTexts ws := by
  obtain ⟨text, written, balanced⟩ := balanced_document_iff finite
  refine ⟨text, written, (exists_parse_iff ids drawn text).trans balanced, fun s opened plain =>
    ⟨⟨exportDocument_eq opened plain written, fun t => exists_importDocument_iff.trans balanced⟩, ?_⟩⟩
  intro files asked after r p saved isDocument t
  obtain ⟨same, written', done⟩ := save_of_saveFile opened plain isDocument saved
  obtain rfl := Except.ok.inj (written'.symm.trans written)
  obtain ⟨there, read⟩ := Files.read_of_save done
  rw [exists_openFile_iff there read isDocument, braceCounts_normalizeNewlines, balanced]

/-! ## Two workspaces -/

/-- In an empty directory, a document is saved under a plain name. -/
theorem exists_saveFile (opened : s.workspace = some ws) (plain : ∀ v ∈ ws.views, v.name ≠ gap)
    (written : document ws = .ok text) (whole : isWhole text = true) :
    ∃ after r, s.saveFile {} (some "w.dsl") = (after, .ok (r, .ofText "w.dsl")) := by
  have current : s.requireWorkspace = .ok ws := by rw [requireWorkspace, opened]
  have directories : ({} : Files).makeDirectories (Path.ofText "w.dsl").parent = ({}, .ok ()) := by decide +kernel
  have reach : ({} : Files).reach (.ofText "w.dsl") = .ok ["w.dsl"] := by decide +kernel
  have free : ({} : Files).node? ["w.dsl"] = none := by decide +kernel
  have document : saved { workspace := ws } (.ofText "w.dsl") = .ok text := by
    rw [saved, if_pos (by decide +kernel), Overlaid.document_of_plain plain, written]
  have asked : s.destination (some "w.dsl") = .ok (.ofText "w.dsl") := rfl
  simp only [saveFile, current, asked, document, Files.save, directories, Files.write, reach, free, whole, if_true]
  exact ⟨_, _, rfl⟩

/-- A person with as many braces of one sort as of the other in the name. -/
def leaflet : Workspace :=
  { name := "Leaflet", description := ""
    elements := [{ id := "ann", kind := .person, name := "a \x7b b \x7d" }]
    views := [landscapeView "All"] }

theorem taken_back_iff_leaflet :
    ∃ text after r, document leaflet = .ok text ∧ (∃ d, parse IdSource.strokes 0 text = .ok d) ∧
      saveFile {} { workspace := some leaflet } (some "w.dsl") = (after, .ok (r, .ofText "w.dsl")) ∧
        ∃ u, r.openFile IdSource.strokes 0 after (.ofText "w.dsl") = .ok u := by
  have finite : HasFinitePositions leaflet.elements := by decide
  have plain : ∀ v ∈ leaflet.views, v.name ≠ gap := by decide
  have balanced : HasBalancedTexts leaflet := by decide
  obtain ⟨text, written, parsed, session⟩ := taken_back_iff IdSource.strokes 0 finite
  have whole : isWhole text = true := by
    rw [Except.ok.inj (written.symm.trans (write_eq finite usualStep)), isWhole, String.toList_ofList]
    decide +kernel
  obtain ⟨after, r, saved⟩ := exists_saveFile (s := { workspace := some leaflet }) rfl plain written whole
  have opened := (session _ rfl plain).2 {} _ after r _ saved (by decide +kernel) r
  exact ⟨text, after, r, written, parsed.2 balanced, saved, opened.2 balanced⟩

/-- A person with a brace in the name. -/
def sketch : Workspace :=
  { name := "Sketch", description := ""
    elements := [{ id := "ann", kind := .person, name := "a \x7b b" }]
    views := [landscapeView "All"] }

/-- The workspace is saved, and what was saved can never be opened. -/
theorem not_taken_back_sketch :
    HasFinitePositions sketch.elements ∧ ∃ text after r, document sketch = .ok text ∧
      saveFile {} { workspace := some sketch } (some "w.dsl") = (after, .ok (r, .ofText "w.dsl")) ∧
        ∀ ids drawn, (∀ d, parse ids drawn text ≠ .ok d) ∧
          ∀ t u, openFile ids drawn after t (.ofText "w.dsl") ≠ .ok u := by
  have finite : HasFinitePositions sketch.elements := by decide
  have plain : ∀ v ∈ sketch.views, v.name ≠ gap := by decide
  have isDocument : (Path.ofText "w.dsl").isDocument = true := by decide +kernel
  obtain ⟨text, written, balanced⟩ := balanced_document_iff finite
  have unbalanced : ¬ (braceCounts text).1 = (braceCounts text).2 := fun same =>
    absurd (balanced.1 same) (by decide)
  have whole : isWhole text = true := by
    rw [Except.ok.inj (written.symm.trans (write_eq finite usualStep)), isWhole, String.toList_ofList]
    decide +kernel
  obtain ⟨after, r, saved⟩ := exists_saveFile (s := { workspace := some sketch }) rfl plain written whole
  obtain ⟨same, written', done⟩ := save_of_saveFile rfl plain isDocument saved
  obtain rfl := Except.ok.inj (written'.symm.trans written)
  obtain ⟨there, read⟩ := Files.read_of_save done
  refine ⟨finite, same, after, r, written, saved, fun ids drawn =>
    ⟨fun d parsed => unbalanced ((exists_parse_iff ids drawn same).1 ⟨d, parsed⟩), fun t u opened => unbalanced ?_⟩⟩
  rw [← braceCounts_normalizeNewlines]
  exact (exists_openFile_iff there read isDocument).1 ⟨u, opened⟩

end Session

end Blueprint
