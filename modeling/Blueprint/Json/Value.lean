/-
  Blueprint.Json.Value — JSON values.

  An object keeps its fields in the order in which they were first written, each name once. An integer
  is kept apart from a floating-point number, of any size.
-/

import Blueprint.Dictionary
import Blueprint.Number.Scalar

namespace Blueprint

inductive Json where
  | null
  | bool (b : Bool)
  | num (n : Scalar)
  | str (s : String)
  | arr (items : List Json)
  | obj (fields : List (String × Json))
  deriving Repr

namespace Json

/-- The fields of an object, or a part of them. -/
abbrev Fields := List (String × Json)

def int (n : Int) : Json := .num (.int n)

def nat (n : Nat) : Json := .num (.int n)

def real (x : Binary64) : Json := .num (.real x)

def ofOption {α : Type} (f : α → Json) : Option α → Json
  | some a => f a
  | none => .null

def strings (ss : List String) : Json := .arr (ss.map .str)

def Fields.get? (fields : Fields) (name : String) : Option Json := Dictionary.lookup name fields

def Fields.set (fields : Fields) (name : String) (value : Json) : Fields := Dictionary.write name value fields

def Fields.has (fields : Fields) (name : String) : Bool := (fields.get? name).isSome

/-- The fields of the first, with those of the second written over them or added. -/
def Fields.overlay (fields updates : Fields) : Fields :=
  updates.foldl (fun fs u => fs.set u.1 u.2) fields

/-- A field of an object; nothing else has fields. -/
def get? (j : Json) (name : String) : Option Json :=
  match j with
  | .obj fields => Fields.get? fields name
  | _ => none

def asString? : Json → Option String
  | .str s => some s
  | _ => none

def isNull : Json → Bool
  | .null => true
  | _ => false

/-- Values that say nothing: null, false, zero, and empty text, arrays and objects. -/
def isVoid : Json → Bool
  | .null => true
  | .bool b => !b
  | .num (.int n) => n == 0
  | .num (.real x) => match x with | .finite _ m _ => m == 0 | _ => false
  | .str s => s == ""
  | .arr items => items.isEmpty
  | .obj fields => fields.isEmpty

end Json

end Blueprint
