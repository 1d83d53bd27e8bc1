/-
  Blueprint.Identifier.Fresh — readable identities (`element_identity` and `view_identity`, over
  `_unique`).

  A renamed element gets the id `<Slug>_<Label>`, a renamed view the slug of its name. If that is
  taken, `_1`, `_2`, … is added until it is free; among one more candidates than ids are taken there is
  always a free one.
-/

import Blueprint.Identifier.Slug
import Blueprint.Model.Kind
import Blueprint.Number.Numeral

namespace Blueprint

open Text

/-- The k-th candidate for a free name. -/
def candidate (base : String) (k : Nat) : String :=
  if k = 0 then base else base ++ "_" ++ natText k

/-- The first candidate that is not taken. -/
def firstFree (base : String) (taken : List String) : String :=
  match (List.range (taken.length + 1)).find? fun k => !taken.contains (candidate base k) with
  | some k => candidate base k
  | none => base

def elementIdentity (kind : ElementKind) (name : String) (existing : List String) : String :=
  let slug := slugify name.toList
  let label := kind.label.toList.filter (!isBlank ·)
  firstFree (String.ofList ((if slug.isEmpty then "Unnamed".toList else slug) ++ '_' :: label)) existing

def viewIdentity (name : String) (existing : List String) : String :=
  let slug := slugify name.toList
  firstFree (if slug.isEmpty then "view" else String.ofList slug) existing

end Blueprint
