/-
  Blueprint.Proofs.Service.Exports — whether the open workspace can be exported (`export_dsl` behind any
  routes).

  A document gives the positions of the elements that its views show, rounded to whole numbers, and what is no
  number has none that is nearest. Positions come in with an element that is added or updated and with a
  document that is read; elements are put on the grid by their index, and go back to where they are remembered.
  Nothing on the way looks whether a coordinate is a number.

  Proved: a document can be made of the open workspace all along a run iff what it shows is placed on numbers
  all along it, and so on every run into which only numbers come (`exportsHold`).
-/

import Blueprint.Proofs.Dsl.ModelSection
import Blueprint.Proofs.Dsl.Recorded
import Blueprint.Proofs.Service.Runs

namespace Blueprint

open Dsl

/-- The coordinates that a change asks for are numbers. -/
def Change.HasNumbers : Change → Prop
  | .addElement _ draft => draft.position.IsFinite
  | .updateElement _ u => ∀ p ∈ u.position, p.IsFinite
  | _ => True

/-- Only numbers come in as coordinates, and the grid is for no more elements than can be counted with them. -/
def Terms.numbers : Terms :=
  { reads := Dsl.HasNumbers, arranges := fun ws => ws.elements.length ≤ cellBound
    changes := fun _ _ c => c.HasNumbers }

namespace Workspace

/-- A document can be made of the workspace. -/
def HasDocument (ws : Workspace) : Prop := ∃ text, Dsl.document ws = .ok text

variable {ids : IdSource} {drawn : Nat} {ws : Workspace} {o : Outcome}

theorem hasDocument_iff : ws.HasDocument ↔ HasFiniteViews ws :=
  ⟨fun ⟨_, written⟩ => finite_of_write written, fun finite => ⟨_, write_of_finite finite _⟩⟩

/-! ## Changes -/

theorem position_rekeyed (old new newName : String) (e : Element) :
    (e.rekeyed old new newName).position = e.position := by
  unfold Element.rekeyed
  split
  · rfl
  · split <;> rfl

/-- Elements stay on numbers if only numbers are asked for. -/
theorem finite_of_apply (h : HasFinitePositions ws.elements) {c : Change} (numbers : c.HasNumbers)
    (ho : ws.apply ids drawn c = .ok o) : HasFinitePositions o.workspace.elements := by
  cases applied_of_apply ho with
  | @addElement given draft e first _ chosen made parent =>
    intro x hx
    rcases List.mem_append.1 hx with old | new
    · exact h x old
    · have position : x.position = draft.position := by rw [List.mem_singleton.1 new, made]; rfl
      exact position ▸ numbers
  | @updateElement id u e _ mem named free =>
    intro x hx
    obtain ⟨y, hy, rfl⟩ := List.mem_map.1 hx
    split
    · show Position.IsFinite (u.position.getD e.position)
      cases asked : u.position with
      | none => exact h e mem
      | some p => exact numbers p asked
    · exact h y hy
  | @renameElement id newName e _ found =>
    intro x hx
    obtain ⟨y, hy, rfl⟩ := List.mem_map.1 hx
    exact position_rekeyed id _ newName y ▸ h y hy
  | deleteElement found => exact fun x hx => h x (List.mem_of_mem_filter hx)
  | _ => exact h

/-! ## Positions that are given all at once -/

theorem finite_arrange {es : List Element} (few : es.length ≤ cellBound) : HasFinitePositions (Grid.arrange es) := by
  intro e he
  obtain ⟨i, hi, rfl⟩ := List.mem_mapIdx.1 he
  exact isFinite_gridCell (Nat.le_trans (Nat.le_of_lt hi) few)

theorem allFinite_rememberEach {es : List Element} (finite : HasFinitePositions es) {r : Dictionary Position}
    (h : AllFinite r) : AllFinite (Session.rememberEach r es) := by
  unfold Session.rememberEach
  induction es generalizing r with
  | nil => exact h
  | cons e es ih =>
    obtain ⟨first, rest⟩ := List.forall_mem_cons.1 finite
    exact ih rest (h.insert first _)

theorem finite_restoredIn {r : Dictionary Position} (h : AllFinite r) (finite : HasFinitePositions ws.elements) :
    HasFinitePositions (Session.restoredIn r ws).elements := by
  intro x hx
  obtain ⟨e, he, rfl⟩ := List.mem_map.1 hx
  show Position.IsFinite ((r.find? e.memoryKey).getD e.position)
  cases found : r.find? e.memoryKey with
  | none => exact finite e he
  | some p => exact h.find? found

theorem elements_withSomeView (ws : Workspace) : ws.withSomeView.elements = ws.elements := by
  unfold withSomeView
  split <;> rfl

/-! ## Runs -/

theorem keptOn_finite (ids : IdSource) : KeptOn ids .numbers AllFinite fun _ ws => HasFinitePositions ws.elements where
  later _ h := h
  new _ _ := fun _ he => nomatch he
  parsed numbers h := finite_of_parse numbers h
  someView h := by rwa [elements_withSomeView]
  nothing := .nothing
  remembered finite h := allFinite_rememberEach finite h
  restored h finite := finite_restoredIn h finite
  arranged few _ := finite_arrange few
  changed h _ numbers ho := finite_of_apply h numbers ho

end Workspace

namespace Desk

theorem exportsHold {ids : IdSource} (bound drawn : Nat) (files : Files) (ms : List Message) :
    (Always ids { session := { bound }, files, drawn } ms Workspace.HasDocument ↔
        Always ids { session := { bound }, files, drawn } ms HasFiniteViews) ∧
      ((∀ before m rest, ms = before ++ m :: rest →
          (Desk.after ids { session := { bound }, files, drawn } before).Meets ids .numbers m) →
        Always ids { session := { bound }, files, drawn } ms Workspace.HasDocument) := by
  refine ⟨?_, fun meets => ?_⟩
  · simp only [Always, Workspace.hasDocument_iff]
  · exact (Workspace.keptOn_finite ids).always meets fun finite =>
      Workspace.hasDocument_iff.2 (HasFinitePositions.shown finite _)

/-- A person is added, and this is her first coordinate. -/
def personPlaced (x : Json) : List Message :=
  [sending .post "/api/workspace/new" [], sending .post "/api/elements" [("kind", .str "person"), ("x", x)]]

/-- A document that puts a person in a place. -/
def annPlaced : String := "model \x7b\nann = person \"Ann\"\n\x7d\nviews \x7b\nelement ann 12 -7.5\n\x7d"

/-- A person is added, and then another one is imported. -/
def personsPlaced : List Message :=
  personPlaced (.int 600) ++ [sending .post "/api/dsl/import" [("dsl", .str annPlaced)]]

theorem meets_personsPlaced (ids : IdSource) (d : Desk) : ∀ m ∈ personsPlaced, d.Meets ids .numbers m := by
  have added : (sending .post "/api/elements" [("kind", .str "person"), ("x", .int 600)]).request =
      .ok (.edit (.addElement none { kind := .person, name := "New Person", position := ⟨600, 0⟩ })) := by
    decide +kernel
  have imported : (sending .post "/api/dsl/import" [("dsl", .str annPlaced)]).request =
      .ok (.importDocument annPlaced) := by
    decide +kernel
  intro m mem
  simp only [personsPlaced, personPlaced, List.cons_append, List.nil_append, List.mem_cons, List.not_mem_nil,
    or_false] at mem
  rcases mem with rfl | rfl | rfl
  · exact .of_request (q := .newWorkspace none) rfl nofun nofun (fun _ asked => nomatch asked)
      fun _ _ asked => nomatch asked
  · refine .of_request added nofun nofun (fun _ asked => nomatch asked) fun c ws asked _ => ?_
    cases asked
    show Position.IsFinite ⟨600, 0⟩
    decide +kernel
  · refine .of_request imported nofun (fun text asked => ?_) (fun _ asked => nomatch asked)
      fun _ _ asked => nomatch asked
    cases asked
    exact ⟨by decide +kernel, by decide +kernel⟩

theorem exportsHold_personsPlaced :
    (Desk.after IdSource.strokes {} personsPlaced).session.workspace.map (·.elements.map (·.position.y.nearest)) =
        some [-8] ∧
      Always IdSource.strokes {} personsPlaced Workspace.HasDocument := by
  refine ⟨by decide +kernel, (exportsHold 100 0 {} _).2 fun before m rest split => ?_⟩
  exact meets_personsPlaced _ _ m (by rw [split]; exact List.mem_append_cons_self)

/-- An infinite coordinate is taken for a number. -/
theorem not_exportsHold_personPlaced :
    (∀ before m rest, personPlaced (.str "inf") = before ++ m :: rest →
        ¬ (Desk.after IdSource.strokes {} before).OpensJson IdSource.strokes m) ∧
      (Desk.after IdSource.strokes {} (personPlaced (.str "inf"))).session.workspace.map
        (fun ws => (Dsl.document ws).toOption) = some none ∧
      ¬ Always IdSource.strokes {} (personPlaced (.str "inf")) Workspace.HasDocument := by
  have last : (Desk.after IdSource.strokes {} (personPlaced (.str "inf"))).session.workspace.map
      (fun ws => (Dsl.document ws).toOption) = some none := by decide +kernel
  refine ⟨fun before m rest split => ?_, last, fun hold => ?_⟩
  · have mem : m ∈ personPlaced (.str "inf") := by rw [split]; exact List.mem_append_cons_self
    simp only [personPlaced, List.mem_cons, List.not_mem_nil, or_false] at mem
    rintro ⟨path, r, asked, _⟩
    rcases mem with rfl | rfl <;> cases asked
  · obtain ⟨ws, opened, nothing⟩ := Option.map_eq_some_iff.1 last
    obtain ⟨text, written⟩ := hold (personPlaced (.str "inf")) [] (List.append_nil _).symm ws opened
    rw [written] at nothing
    cases nothing

end Desk

end Blueprint
