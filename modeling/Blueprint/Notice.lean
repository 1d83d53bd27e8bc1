/-
  Blueprint.Notice — what a reader is told of something that went wrong (`get_error_message`).

  A fault is told by its message, and text by itself. Any other failure is told by its own words: those
  of the one value that it carries, or all of its values in brackets, or, if that says nothing, the name
  of its kind. Of anything else it is only said that it happened.

  Proved: a failure without a value is told by its kind (`message_failure_nil`).
-/

import Blueprint.Json.Shown

namespace Blueprint

inductive Notice where
  /-- The message is a text, unless the fault was given something else for one. -/
  | fault (message : Json)
  /-- Any other failure, by the name of its kind and the values that it carries. -/
  | failure (kind : String) (carried : List Json)
  | other (value : Json)
  deriving Repr

namespace Notice

/-- The words of a failure that carries these values. -/
def words : List Json → String
  | [] => ""
  | [j] => j.shown
  | js => "(" ++ ", ".intercalate (Json.innerItems js) ++ ")"

def message : Notice → Json
  | fault message => message
  | failure kind carried => .str (if words carried = "" then kind else words carried)
  | other (.str text) => .str text
  | other _ => .str "An unexpected error occurred"

theorem message_failure_nil (kind : String) : message (failure kind []) = .str kind := rfl

end Notice

end Blueprint
