/-
  Blueprint.Schema.Check — fitting data to a model (the validation of the fields of `Element`,
  `Relationship`, `View` and `Workspace`).

  A check gives a value or all places where the data does not fit. Checks are put together field by
  field: the whole fits if every part does, and what does not fit is listed in the order of the parts.
-/

import Blueprint.Fault

namespace Blueprint

inductive Check (α : Type) where
  | fits (value : α)
  | misfits (issues : List Issue)
  deriving Repr

namespace Check

def map {α β : Type} (f : α → β) : Check α → Check β
  | fits a => fits (f a)
  | misfits issues => misfits issues

/-- Both parts are looked at, whatever the first one gives. -/
def both {α β : Type} : Check (α → β) → Check α → Check β
  | fits f, fits a => fits (f a)
  | fits _, misfits issues => misfits issues
  | misfits issues, fits _ => misfits issues
  | misfits issues, misfits more => misfits (issues ++ more)

instance : Applicative Check where
  pure := fits
  map := map
  seq f a := both f (a ())

def misfit {α : Type} (m : Misfit) : Check α := misfits [⟨[], m⟩]

/-- The same check, one step further out. -/
def within {α : Type} (step : String) : Check α → Check α
  | fits a => fits a
  | misfits issues => misfits (issues.map fun i => { i with place := step :: i.place })

def toExcept {α : Type} : Check α → Except Failure α
  | fits a => .ok a
  | misfits issues => .error (.schema issues)

/-! ## Fields -/

/-- The value of a field by its name or, if that is absent, by an older one. -/
def valueOf? (fields : Json.Fields) (name : String) (older : Option String) : Option Json :=
  (Json.Fields.get? fields name).or (older.bind (Json.Fields.get? fields))

def required {α : Type} (fields : Json.Fields) (name : String) (read : Json → Check α)
    (older : Option String := none) : Check α :=
  match valueOf? fields name older with
  | some j => (read j).within name
  | none => (Check.misfit .missing).within name

def optional {α : Type} (fields : Json.Fields) (name : String) (absent : α) (read : Json → Check α)
    (older : Option String := none) : Check α :=
  match valueOf? fields name older with
  | some j => (read j).within name
  | none => .fits absent

/-- A field that may be left out, and is then not there. -/
def present {α : Type} (fields : Json.Fields) (name : String) (read : Json → Check α)
    (older : Option String := none) : Check (Option α) :=
  optional fields name none (fun j => (read j).map some) older

/-! ## Small facts -/

theorem map_fits {α β : Type} {f : α → β} {c : Check α} {b : β} (h : c.map f = .fits b) : ∃ a, c = .fits a ∧ f a = b := by
  cases c with
  | fits a => exact ⟨a, rfl, by simpa [map] using h⟩
  | misfits issues => simp [map] at h

theorem both_fits {α β : Type} {f : Check (α → β)} {a : Check α} {b : β} (h : f.both a = .fits b) :
    ∃ g x, f = .fits g ∧ a = .fits x ∧ g x = b := by
  cases f <;> cases a <;> simp_all [both]

end Check

end Blueprint
