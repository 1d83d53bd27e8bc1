/-
  Blueprint.Schema.Value — fitting single values (the types of the fields of the model).

  Text must be text and a word must be one of its vocabulary. A number may also be given as a truth
  value or in text, and a truth value as the numbers zero and one or as one of a few words. A text that
  is to be understood as any of these has whole characters only.
-/

import Blueprint.Number.Written
import Blueprint.Schema.Check
import Blueprint.Text.Half

namespace Blueprint.Check

open Text

def text : Json → Check String
  | .str s => .fits s
  | _ => misfit .notText

/-- What `read` takes, or null. -/
def nullable {α : Type} (read : Json → Check α) : Json → Check (Option α)
  | .null => .fits none
  | j => (read j).map some

/-- What a text is understood as; `otherwise` says how a text without a meaning does not fit. -/
def meaning {α : Type} (otherwise : Misfit) (s : String) (found : Option α) : Check α :=
  match found with
  | some a => .fits a
  | none => misfit (if isWhole s then otherwise else .notWhole)

def word {α : Type} (ofKeyword? : String → Option α) : Json → Check α
  | .str s => meaning .notInVocabulary s (ofKeyword? s)
  | _ => misfit .notInVocabulary

/-- The items from an index on. -/
def items {α : Type} (read : Json → Check α) : Nat → List Json → Check (List α)
  | _, [] => .fits []
  | i, j :: js => ((read j).within (natText i)).map List.cons |>.both (items read (i + 1) js)

def list {α : Type} (read : Json → Check α) : Json → Check (List α)
  | .arr js => items read 0 js
  | _ => misfit .notList

/-- An integer is rounded to the nearest floating-point number, if it is in their range. -/
def number : Json → Check Binary64
  | .num (.real x) => .fits x
  | .num (.int n) =>
    let x := Binary64.ofInt n
    if x.isFinite then .fits x else misfit .notNumber
  | .bool b => .fits (if b then 1 else 0)
  | .str s => meaning .unreadableNumber s (Binary64.ofText? s)
  | _ => misfit .notNumber

def falseWords : List String := ["0", "off", "f", "false", "n", "no"]

def trueWords : List String := ["1", "on", "t", "true", "y", "yes"]

/-- A signed word of 64 bits holds the integers from minus this number up to it, itself excluded. -/
def wordBound : Int := twoTo 63

/-- Integers that a word holds are read as truth values, larger ones are none. -/
def truthOfInt (n : Int) : Check Bool :=
  if n = 0 then .fits false
  else if n = 1 then .fits true
  else misfit (if -wordBound ≤ n ∧ n < wordBound then .unreadableTruth else .notTruth)

/-- A whole number is read as its integer; of those that a word holds, the least one is none. -/
def truthOfReal (x : Binary64) : Check Bool :=
  match x.toInt? with
  | some n => if n = -wordBound then misfit .notTruth else truthOfInt n
  | none => misfit .notTruth

/-- The truth value that a word stands for, in any case. -/
def truthOfWord? (s : String) : Option Bool :=
  let word := String.ofList (Binary64.inLowerCase s.toList)
  if falseWords.contains word then some false else if trueWords.contains word then some true else none

def truth : Json → Check Bool
  | .bool b => .fits b
  | .num (.int n) => truthOfInt n
  | .num (.real x) => truthOfReal x
  | .str s => meaning .unreadableTruth s (truthOfWord? s)
  | _ => misfit .notTruth

/-- The fields of an object; `otherwise` says how anything else does not fit. -/
def object {α : Type} (otherwise : Misfit) (read : Json.Fields → Check α) : Json → Check α
  | .obj fields => read fields
  | _ => misfit otherwise

end Blueprint.Check
