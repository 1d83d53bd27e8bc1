/-
  Blueprint.Proofs.Schema.Shape — values that have not the shape of a workspace (where
  `Workspace.from_json_dict` finds no list or no fields).

  The lenient way to read a workspace asks the value for its fields, and then goes through its elements, its
  relationships and its views, to each of these only if all that came before has fit. An item that does not fit
  is a misfit. A value without fields is none, and neither is a null, a truth value or a number where there
  should be a list: there the reading comes to an accident.

  Proved: what trips the reading comes to an accident (`read_of_trips`); any other value is read, or misfits are
  found in it (`read_cases`).
-/

import Blueprint.Proofs.Except
import Blueprint.Schema.Model

namespace Blueprint

open Check

variable {α : Type} {fields : Json.Fields} {name : String}

/-! ## Checks that are taken for readings -/

theorem Check.toExcept_cases (c : Check α) :
    (∃ a, c.toExcept = .ok a) ∨ ∃ issues, c.toExcept = .error (.schema issues) := by
  cases c with
  | fits a => exact .inl ⟨a, rfl⟩
  | misfits issues => exact .inr ⟨issues, rfl⟩

/-- Items that are read one by one all fit, or the first that does not ends the reading. -/
theorem Check.mapM_toExcept_cases (read : Json → Check α) (js : List Json) :
    ((∃ as, (js.mapM fun j => (read j).toExcept) = .ok as) ∧ ∀ j ∈ js, ∃ a, read j = .fits a) ∨
      (∃ issues, (js.mapM fun j => (read j).toExcept) = .error (.schema issues)) ∧ ∃ j ∈ js, ∀ a, read j ≠ .fits a := by
  induction js with
  | nil => exact .inl ⟨⟨[], rfl⟩, fun j hj => absurd hj List.not_mem_nil⟩
  | cons j js ih =>
    rw [List.mapM_cons]
    cases fit : read j with
    | misfits issues => exact .inr ⟨⟨issues, rfl⟩, j, List.mem_cons_self, fun a fits => nomatch fit.symm.trans fits⟩
    | fits a =>
      rcases ih with ⟨⟨as, read'⟩, all⟩ | ⟨⟨issues, misfit⟩, i, hi, unfit⟩
      · exact .inl ⟨⟨a :: as, by rw [read']; rfl⟩, List.forall_mem_cons.2 ⟨⟨a, fit⟩, all⟩⟩
      · exact .inr ⟨⟨issues, by rw [misfit]; rfl⟩, i, List.mem_cons_of_mem _ hi, unfit⟩

/-! ## The parts of a workspace -/

/-- A value in which there is nothing to go through: null, a truth value or a number. -/
def Json.IsSingle : Json → Prop
  | .null | .bool _ | .num _ => True
  | .str _ | .arr _ | .obj _ => False

namespace WorkspaceDraft

/-- The field is there, and there is nothing to go through in it. -/
def IsBarred (fields : Json.Fields) (name : String) : Prop := ∃ j, fields.get? name = some j ∧ j.IsSingle

/-- The field is absent, or it can be gone through and all that is in it fits. -/
def AllFit (fields : Json.Fields) (name : String) (read : Json → Check α) : Prop :=
  ∀ j, fields.get? name = some j → ∃ js, parts? j = some js ∧ ∀ item ∈ js, ∃ a, read item = .fits a

theorem parts?_eq_none_iff {j : Json} : parts? j = none ↔ j.IsSingle := by
  cases j <;> simp [parts?, Json.IsSingle]

theorem readParts_of_absent (absent : fields.get? name = none) (read : Json → Check α) :
    readParts fields name read = .ok [] := by
  rw [readParts, absent]
  rfl

theorem readParts_of_parts {j : Json} {js : List Json} (given : fields.get? name = some j) (parts : parts? j = some js)
    (read : Json → Check α) : readParts fields name read = js.mapM fun j => (read j).toExcept := by
  rw [readParts, given, Option.elim_some, parts]

theorem readParts_of_barred (h : IsBarred fields name) (read : Json → Check α) :
    readParts fields name read = .error (.accident .notIterable) := by
  obtain ⟨j, given, single⟩ := h
  rw [readParts, given, Option.elim_some, parts?_eq_none_iff.2 single]

theorem exists_readParts {read : Json → Check α} (h : AllFit fields name read) :
    ∃ as, readParts fields name read = .ok as := by
  cases given : fields.get? name with
  | none => exact ⟨[], readParts_of_absent given read⟩
  | some j =>
    obtain ⟨js, parts, fit⟩ := h j given
    rw [readParts_of_parts given parts]
    rcases mapM_toExcept_cases read js with ⟨all, _⟩ | ⟨_, i, hi, unfit⟩
    · exact all
    · obtain ⟨a, fits⟩ := fit i hi
      exact absurd fits (unfit a)

/-- What is read of a field: all of it, or misfits, or that there is nothing to go through. -/
theorem readParts_cases (fields : Json.Fields) (name : String) (read : Json → Check α) :
    (∃ as, readParts fields name read = .ok as ∧ AllFit fields name read) ∨
      (∃ issues, readParts fields name read = .error (.schema issues)) ∨
        (readParts fields name read = .error (.accident .notIterable) ∧ IsBarred fields name) := by
  cases given : fields.get? name with
  | none => exact .inl ⟨[], readParts_of_absent given read, fun j there => nomatch given.symm.trans there⟩
  | some j =>
    cases parts : parts? j with
    | none =>
      have barred : IsBarred fields name := ⟨j, given, parts?_eq_none_iff.1 parts⟩
      exact .inr (.inr ⟨readParts_of_barred barred read, barred⟩)
    | some js =>
      rw [readParts_of_parts given parts]
      rcases mapM_toExcept_cases read js with ⟨⟨as, all⟩, fit⟩ | ⟨misfit, _⟩
      · refine .inl ⟨as, all, fun i there => ?_⟩
        cases given.symm.trans there
        exact ⟨js, parts, fit⟩
      · exact .inr (.inl misfit)

/-! ## The whole value -/

/-- What the reading of a value trips over: that it has no fields or, with everything in front of it in order, a
field that cannot be gone through. -/
inductive Trips : Json → Accident → Prop
  | noFields {j : Json} (other : ∀ fields, j ≠ .obj fields) : Trips j .noFields
  | elements {fields : Json.Fields} (barred : IsBarred fields "elements") : Trips (.obj fields) .notIterable
  | relationships {fields : Json.Fields} (elements : AllFit fields "elements" (ElementDraft.read .notObject))
      (barred : IsBarred fields "relationships") : Trips (.obj fields) .notIterable
  | views {fields : Json.Fields} (elements : AllFit fields "elements" (ElementDraft.read .notObject))
      (relationships : AllFit fields "relationships" (RelationshipDraft.read .notObject))
      (barred : IsBarred fields "views") : Trips (.obj fields) .notIterable

theorem read_of_trips {j : Json} {a : Accident} (h : Trips j a) : read j = .error (.accident a) := by
  cases h with
  | noFields other =>
    cases j with
    | obj fields => exact absurd rfl (other fields)
    | _ => rfl
  | elements barred =>
    rw [read, readParts_of_barred barred]
    rfl
  | relationships elements barred =>
    obtain ⟨es, he⟩ := exists_readParts elements
    rw [read, he, readParts_of_barred barred]
    rfl
  | views elements relationships barred =>
    obtain ⟨es, he⟩ := exists_readParts elements
    obtain ⟨rs, hr⟩ := exists_readParts relationships
    rw [read, he, hr, readParts_of_barred barred]
    rfl

/-- A value is read, or misfits are found in it, or it trips the reading. -/
theorem read_cases (j : Json) :
    (∃ d, read j = .ok d) ∨ (∃ issues, read j = .error (.schema issues)) ∨
      ∃ a, read j = .error (.accident a) ∧ Trips j a := by
  cases j with
  | obj fields =>
    rw [read]
    rcases readParts_cases fields "elements" (ElementDraft.read .notObject) with
      ⟨es, he, elements⟩ | ⟨issues, misfit⟩ | ⟨accident, barred⟩
    · rcases readParts_cases fields "relationships" (RelationshipDraft.read .notObject) with
        ⟨rs, hr, relationships⟩ | ⟨issues, misfit⟩ | ⟨accident, barred⟩
      · rcases readParts_cases fields "views" (ViewDraft.read .notObject) with
          ⟨vs, hv, _⟩ | ⟨issues, misfit⟩ | ⟨accident, barred⟩
        · rw [he, hr, hv]
          -- what is left are the name and the description, which are checked
          rcases toExcept_cases (_ : Check WorkspaceDraft) with read' | misfit
          · exact .inl read'
          · exact .inr (.inl misfit)
        · rw [he, hr, misfit]
          exact .inr (.inl ⟨issues, rfl⟩)
        · rw [he, hr, accident]
          exact .inr (.inr ⟨_, rfl, .views elements relationships barred⟩)
      · rw [he, misfit]
        exact .inr (.inl ⟨issues, rfl⟩)
      · rw [he, accident]
        exact .inr (.inr ⟨_, rfl, .relationships elements barred⟩)
    · rw [misfit]
      exact .inr (.inl ⟨issues, rfl⟩)
    · rw [accident]
      exact .inr (.inr ⟨_, rfl, .elements barred⟩)
  | _ => exact .inr (.inr ⟨_, rfl, .noFields (fun _ => nofun)⟩)

end WorkspaceDraft

end Blueprint
