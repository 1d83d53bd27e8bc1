/-
  Blueprint.Json.Sendable — JSON that can be sent.

  What is sent is JSON in the narrow sense, in UTF-8: it has no infinite or undefined number
  (`isFinite`), and every text in it has whole characters only (`isWhole`).
-/

import Blueprint.Json.Value
import Blueprint.Text.Half

namespace Blueprint.Json

mutual

/-- Every number in it passes one test, and every text another, the names of fields included. -/
def everyLeaf (number : Scalar → Bool) (text : String → Bool) : Json → Bool
  | .num n => number n
  | .str s => text s
  | .arr items => everyItem number text items
  | .obj fields => everyField number text fields
  | _ => true

def everyItem (number : Scalar → Bool) (text : String → Bool) : List Json → Bool
  | [] => true
  | item :: items => everyLeaf number text item && everyItem number text items

def everyField (number : Scalar → Bool) (text : String → Bool) : List (String × Json) → Bool
  | [] => true
  | (name, value) :: fields => text name && everyLeaf number text value && everyField number text fields

end

def isFinite (j : Json) : Bool :=
  j.everyLeaf (fun | .real x => x.isFinite | .int _ => true) fun _ => true

def isWhole (j : Json) : Bool := j.everyLeaf (fun _ => true) Text.isWhole

def isSendable (j : Json) : Bool := j.isFinite && j.isWhole

end Blueprint.Json
