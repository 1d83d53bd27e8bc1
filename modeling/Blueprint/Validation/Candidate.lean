/-
  Blueprint.Validation.Candidate — elements of which nothing is known to be right (`validate_element`,
  of an element that was built without checks).

  A candidate has whatever values are given for an element's id, name and kind. The id and the name
  must be there and have more than blanks in them; a value that is neither text nor empty cannot be
  looked through for blanks, which is an accident, and so is a field that is looked at and not given.
  A kind that is given is a value like any other, hence none of the kinds that there are.

  Proved: with the texts of an element for its id and its name, a candidate has the element's fault or
  else that of its kind (`fault?_of_texts`).
-/

import Blueprint.Identifier.Allocation
import Blueprint.Json.Shown
import Blueprint.Validation.Rules

namespace Blueprint

structure Candidate where
  id : Json
  name : Option Json
  kind : Option Json
  deriving Repr

namespace Candidate

/-- The candidate with these fields; an id that is not given is drawn. -/
def ofFields (ids : IdSource) (fields : Json.Fields) : Candidate :=
  { id := (fields.get? "id").getD (.str (ids 0)), name := fields.get? "name", kind := fields.get? "kind" }

/-- The text of a value, if there is more than blanks in it. -/
def filledText? : Json → Except Accident (Option String)
  | .str s => .ok (if isBlankText s then none else some s)
  | j => if j.isVoid then .ok none else .error .noFields

/-- A field that is looked at. -/
def seen (field : Option Json) : Except Accident Json :=
  match field with
  | some j => .ok j
  | none => .error .noFields

def fault? (c : Candidate) : Except Accident (Option Fault) := do
  match ← filledText? c.id with
  | none => return some .elementIdMissing
  | some id =>
    match ← filledText? (← seen c.name) with
    | none => return some (.elementNameMissing id)
    | some _ => return some (.elementKindUnknown (← seen c.kind).shown)

/-! ## Small facts -/

theorem fault?_of_texts (e : Element) (kind : Json) :
    fault? { id := .str e.id, name := some (.str e.name), kind := some kind } =
      .ok (e.fault?.or (some (.elementKindUnknown kind.shown))) := by
  unfold fault? Element.fault?
  cases hi : isBlankText e.id <;> cases hn : isBlankText e.name <;>
    simp only [filledText?, seen, hi, hn, bind, Except.bind, pure, Except.pure, if_true, if_false, Bool.false_eq_true,
      Option.or]

end Candidate

end Blueprint
