/-
  Blueprint.Proofs.Schema.Agreement — the two ways to read a workspace agree (`Workspace.from_json_dict` and
  `Workspace.model_validate`).

  The strict way looks at every field and every item and lists all that does not fit; the lenient one goes
  from item to item and stops at the first that does not. They differ in what they take for a list and in a
  description that is not given. For an object that has a description, and arrays wherever it has elements,
  relationships or views, nothing of that matters.

  Proved: what the strict way reports of a part, it reports of the whole (`Reports.within`,
  `Reports.seq_left`, `Reports.seq_right`); items that are read one by one agree with the list that is
  checked as a whole (`agrees_items`), and so do the two ways to read a workspace
  (`read_agrees_readStrictly`).
-/

import Blueprint.Proofs.Except
import Blueprint.Proofs.Identifier.Source
import Blueprint.Schema.Model

namespace Blueprint

/-- The same issue, some steps further out. -/
def Issue.under (steps : List String) (i : Issue) : Issue := { i with place := steps ++ i.place }

namespace Check

variable {α β : Type} {issues : List Issue}

/-- The data does not fit, and these issues are among those that are listed. -/
def Reports (c : Check α) (issues : List Issue) : Prop := ∃ all, c = .misfits all ∧ issues ⊆ all

theorem reports_misfits (issues : List Issue) : (misfits issues : Check α).Reports issues :=
  ⟨issues, rfl, fun _ h => h⟩

theorem Reports.map {c : Check α} (h : c.Reports issues) (f : α → β) : (f <$> c).Reports issues := by
  obtain ⟨all, rfl, sub⟩ := h
  exact ⟨all, rfl, sub⟩

theorem Reports.within {c : Check α} (h : c.Reports issues) (step : String) :
    (c.within step).Reports (issues.map (Issue.under [step])) := by
  obtain ⟨all, rfl, sub⟩ := h
  exact ⟨_, rfl, List.map_subset _ sub⟩

theorem Reports.seq_left {f : Check (α → β)} (h : f.Reports issues) (a : Check α) : (f <*> a).Reports issues := by
  obtain ⟨all, rfl, sub⟩ := h
  cases a with
  | fits a => exact ⟨all, rfl, sub⟩
  | misfits more => exact ⟨all ++ more, rfl, fun i hi => List.mem_append_left _ (sub hi)⟩

theorem Reports.seq_right {a : Check α} (h : a.Reports issues) (f : Check (α → β)) : (f <*> a).Reports issues := by
  obtain ⟨all, rfl, sub⟩ := h
  cases f with
  | fits f => exact ⟨all, rfl, sub⟩
  | misfits more => exact ⟨more ++ all, rfl, fun i hi => List.mem_append_right _ (sub hi)⟩

/-! ## Stopping at the first misfit -/

/-- A reading that may stop early agrees with a check: both give the same, or the reading stops with issues
which the check lists too, some steps further out. Which steps and issues these are is for `stops` to say. -/
inductive Agrees (stops : List String → List Issue → Prop) : Except Failure α → Check α → Prop where
  | fits (a : α) : Agrees stops (.ok a) (.fits a)
  | misfits {c : Check α} {steps : List String} {issues : List Issue} (stopped : stops steps issues)
      (reported : c.Reports (issues.map (Issue.under steps))) : Agrees stops (.error (.schema issues)) c

variable {stops : List String → List Issue → Prop}

theorem map_under_nil (issues : List Issue) : issues.map (Issue.under []) = issues := List.map_id issues

theorem Agrees.map {r : Except Failure α} {c : Check α} (h : Agrees stops r c) (f : α → β) :
    Agrees stops (r.map f) (c.map f) := by
  cases h with
  | fits a => exact .fits (f a)
  | misfits stopped reported => exact .misfits stopped (reported.map f)

theorem Agrees.imp {others : List String → List Issue → Prop} {r : Except Failure α} {c : Check α}
    (h : Agrees stops r c) (imp : ∀ {steps issues}, stops steps issues → others steps issues) : Agrees others r c := by
  cases h with
  | fits a => exact .fits a
  | misfits stopped reported => exact .misfits (imp stopped) reported

/-- A check that is taken for a reading agrees with itself. -/
theorem agrees_toExcept (c : Check α) : Agrees (fun steps issues => steps = [] ∧ c = .misfits issues) c.toExcept c := by
  cases c with
  | fits a => exact .fits a
  | misfits issues =>
    refine .misfits ⟨rfl, rfl⟩ ?_
    rw [map_under_nil]
    exact reports_misfits issues

theorem Agrees.within {r : Except Failure α} {c : Check α} (h : Agrees stops r c) (step : String) :
    Agrees (fun steps issues => ∃ inner, steps = step :: inner ∧ stops inner issues) r (c.within step) := by
  cases h with
  | fits a => exact .fits a
  | misfits stopped reported =>
    refine .misfits ⟨_, rfl, stopped⟩ ?_
    have further := reported.within step
    rwa [List.map_map] at further

/-- The first item of this list that does not fit, with its index as the step to it. -/
def StopsAt (read : Json → Check α) (first : Nat) (js : List Json) (steps : List String) (issues : List Issue) : Prop :=
  ∃ k j, js[k]? = some j ∧ steps = [natText (first + k)] ∧ read j = .misfits issues ∧
    ∀ i ∈ js.take k, ∃ a, read i = .fits a

/-- Items that are read one by one, up to the first that does not fit, agree with those that are all looked at. -/
theorem agrees_items (read : Json → Check α) (first : Nat) (js : List Json) :
    Agrees (StopsAt read first js) (js.mapM fun j => (read j).toExcept) (items read first js) := by
  induction js generalizing first with
  | nil => exact .fits []
  | cons j js ih =>
    rw [List.mapM_cons, items]
    cases fit : read j with
    | misfits issues =>
      refine .misfits ⟨0, j, rfl, rfl, fit, fun i hi => absurd hi List.not_mem_nil⟩ ?_
      exact (((reports_misfits issues).within _).map List.cons).seq_left _
    | fits a =>
      have rest := ih (first + 1)
      revert rest
      generalize (js.mapM fun j => (read j).toExcept) = r
      generalize items read (first + 1) js = c
      intro rest
      cases rest with
      | fits as => exact .fits (a :: as)
      | misfits stopped reported =>
        obtain ⟨k, i, here, steps, misfit, before⟩ := stopped
        refine .misfits ⟨k + 1, i, here, ?_, misfit, ?_⟩ (reported.seq_right _)
        · rw [steps, Nat.add_right_comm, Nat.add_assoc]
        · intro x hx
          rcases List.mem_cons.1 hx with rfl | hx
          · exact ⟨a, fit⟩
          · exact before x hx

end Check

open Check

namespace WorkspaceDraft

variable {fields : Json.Fields}

/-- The first item of a field that does not fit, with the way to it. -/
def StopsIn {α : Type} (fields : Json.Fields) (name : String) (read : Json → Check α) (steps : List String)
    (issues : List Issue) : Prop :=
  ∃ js k j, fields.get? name = some (.arr js) ∧ js[k]? = some j ∧ steps = [name, natText k] ∧
    read j = .misfits issues ∧ ∀ i ∈ js.take k, ∃ a, read i = .fits a

/-- The name and the description. -/
def title (fields : Json.Fields) : Check (String × String) :=
  Prod.mk <$> optional fields "name" defaultWorkspaceName text <*> optional fields "description" "" text

/-- What the lenient way stops at: the first item that does not fit, or the workspace's own texts. -/
def Stops (fields : Json.Fields) (steps : List String) (issues : List Issue) : Prop :=
  StopsIn fields "elements" (ElementDraft.read .notObject) steps issues ∨
    StopsIn fields "relationships" (RelationshipDraft.read .notObject) steps issues ∨
      StopsIn fields "views" (ViewDraft.read .notObject) steps issues ∨
        (steps = [] ∧ title fields = .misfits issues)

/-- The field holds an array, if it is there at all. -/
def IsListed (fields : Json.Fields) (name : String) : Prop := ∀ j, fields.get? name = some j → ∃ js, j = .arr js

/-- The list that a field holds is read as it is checked. -/
theorem agrees_readParts {α : Type} {name : String} (read : Json → Check α) (listed : IsListed fields name) :
    Agrees (StopsIn fields name read) (readParts fields name read) (optional fields name [] (list read)) := by
  have absent : valueOf? fields name none = fields.get? name := Option.or_none
  cases given : fields.get? name with
  | none =>
    rw [readParts, Check.optional, absent, given]
    exact .fits []
  | some j =>
    obtain ⟨js, rfl⟩ := listed j given
    rw [readParts, Check.optional, absent, given]
    refine ((agrees_items read 0 js).within name).imp fun ⟨inner, steps, k, j, here, index, misfit, before⟩ => ?_
    rw [index, Nat.zero_add] at steps
    exact ⟨js, k, j, given, here, steps, misfit, before⟩

theorem agrees_title (fields : Json.Fields) : Agrees (Stops fields) (title fields).toExcept (title fields) :=
  (agrees_toExcept _).imp fun h => .inr (.inr (.inr h))

/-- The two ways to read a workspace that has a description and lists agree. -/
theorem agrees_read (described : fields.has "description") (elements : IsListed fields "elements")
    (relationships : IsListed fields "relationships") (views : IsListed fields "views") :
    Agrees (Stops fields) (read (.obj fields)) (readStrictly .notObject (.obj fields)) := by
  have description : ∀ absent, optional fields "description" absent text = optional fields "description" "" text := by
    intro absent
    obtain ⟨j, given⟩ := Option.isSome_iff_exists.1 described
    simp only [Check.optional, valueOf?, given, Option.some_or]
  rw [read, readStrictly, Check.object, description defaultWorkspaceDescription]
  have e := agrees_readParts (ElementDraft.read .notObject) elements
  have r := agrees_readParts (RelationshipDraft.read .notObject) relationships
  have v := agrees_readParts (ViewDraft.read .notObject) views
  generalize readParts fields "elements" _ = er, Check.optional fields "elements" [] _ = ec at e ⊢
  generalize readParts fields "relationships" _ = rr, Check.optional fields "relationships" [] _ = rc at r ⊢
  generalize readParts fields "views" _ = vr, Check.optional fields "views" [] _ = vc at v ⊢
  cases e with
  | misfits stopped reported => exact .misfits (.inl stopped) (((reported.seq_right _).seq_left _).seq_left _)
  | fits es =>
    cases r with
    | misfits stopped reported => exact .misfits (.inr (.inl stopped)) ((reported.seq_right _).seq_left _)
    | fits rs =>
      cases v with
      | misfits stopped reported => exact .misfits (.inr (.inr (.inl stopped))) (reported.seq_right _)
      | fits vs =>
        let make : String × String → WorkspaceDraft := fun own =>
          { name := own.1, description := own.2, elements := es, relationships := rs, views := vs }
        have own := (agrees_title fields).map make
        rw [title] at own
        revert own
        generalize Check.optional fields "name" _ text = name, Check.optional fields "description" "" text = description
        intro own
        cases name <;> cases description <;> exact own

end WorkspaceDraft

namespace Workspace

open WorkspaceDraft

/-- Of an object that has a description, and arrays wherever it has elements, relationships or views, both ways
give the same workspace with the same ids or none of them gives one; and what the lenient way stops at is among
what the strict one lists, with the way to the item in front of its place. -/
theorem read_agrees_readStrictly (ids : IdSource) (drawn : Nat) {fields : Json.Fields}
    (described : fields.has "description") (elements : IsListed fields "elements")
    (relationships : IsListed fields "relationships") (views : IsListed fields "views") :
    (∀ r, read ids drawn (.obj fields) = .ok r ↔ readStrictly .notObject ids drawn (.obj fields) = .fits r) ∧
      ∀ f, read ids drawn (.obj fields) = .error f →
        ∃ steps issues, f = .schema issues ∧ Stops fields steps issues ∧
          (readStrictly .notObject ids drawn (.obj fields)).Reports (issues.map (Issue.under steps)) := by
  have agrees := (agrees_read described elements relationships views).map (·.complete ids drawn)
  rw [← read, ← readStrictly] at agrees
  generalize read ids drawn (.obj fields) = r, readStrictly .notObject ids drawn (.obj fields) = c at agrees ⊢
  cases agrees with
  | fits a =>
    refine ⟨fun r => ⟨fun h => ?_, fun h => ?_⟩, fun f h => nomatch h⟩
    · cases h
      rfl
    · cases h
      rfl
  | misfits stopped reported =>
    refine ⟨fun r => ⟨fun h => (nomatch h), fun h => ?_⟩, fun f h => ?_⟩
    · obtain ⟨all, misfit, _⟩ := reported
      cases misfit.symm.trans h
    · cases h
      exact ⟨_, _, rfl, stopped, reported⟩

/-- Ann, someone without a name, and a view that is none. -/
def nameless : Json.Fields :=
  [("description", .str ""),
    ("elements", .arr [.obj [("kind", .str "person"), ("name", .str "Ann")], .obj [("type", .str "person")]]),
    ("views", .arr [.null])]

theorem read_agrees_nameless :
    nameless.has "description" ∧
      read IdSource.strokes 0 (.obj nameless) = .error (.schema [⟨["name"], .missing⟩]) ∧
        ∃ steps, Stops nameless steps [⟨["name"], .missing⟩] ∧
          (readStrictly .notObject IdSource.strokes 0 (.obj nameless)).Reports [⟨steps ++ ["name"], .missing⟩] := by
  have listed : ∀ name ∈ ["elements", "relationships", "views"], IsListed nameless name := by
    intro name mem j given
    simp only [List.mem_cons, List.not_mem_nil, or_false] at mem
    rcases mem with rfl | rfl | rfl <;> cases given
    · exact ⟨_, rfl⟩
    · exact ⟨_, rfl⟩
  have stopped : read IdSource.strokes 0 (.obj nameless) = .error (.schema [⟨["name"], .missing⟩]) := rfl
  have described : nameless.has "description" := rfl
  obtain ⟨steps, issues, same, stops, reported⟩ := (read_agrees_readStrictly IdSource.strokes 0 described
    (listed _ (by decide)) (listed _ (by decide)) (listed _ (by decide))).2 _ stopped
  cases same
  exact ⟨described, stopped, steps, stops, reported⟩

-- Where there is no description, only the strict way puts the usual one there.
example : ∃ ws ws', read IdSource.strokes 0 (.obj []) = .ok (ws, 0) ∧
    readStrictly .notObject IdSource.strokes 0 (.obj []) = .fits (ws', 0) ∧ ws.description ≠ ws'.description :=
  ⟨_, _, rfl, rfl, by decide⟩

end Workspace

end Blueprint
