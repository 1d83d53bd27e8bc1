/-
  Blueprint.Identifier.Table — what the identifiers of a document stand for (`IdentifierTable`).

  An element is entered under its bare identifier and under the one qualified by its enclosing
  elements, and a reference may use either. A later entry takes a name over.

  Proved: a dotted suffix is one, whatever is looked at first (`isDottedSuffix_iff`); after an entry
  both its names stand for it (`resolve_register`), and no other name changes.
-/

import Blueprint.Dictionary

namespace Blueprint

/-- `full` ends with a dot and `short`; the lengths settle most cases. -/
def isDottedSuffix (short full : String) : Bool :=
  short.length < full.length && ('.' :: short.toList).isSuffixOf full.toList

theorem isDottedSuffix_iff {short full : String} :
    isDottedSuffix short full = true ↔ '.' :: short.toList <:+ full.toList := by
  simp only [isDottedSuffix, Bool.and_eq_true, decide_eq_true_eq, List.isSuffixOf_iff_suffix]
  constructor
  · exact fun h => h.2
  · intro h
    have bound := h.length_le
    simp only [List.length_cons, String.length_toList] at bound
    exact ⟨bound, h⟩

structure IdentifierTable where
  ids : Dictionary String := {}
  /-- The qualified names alone. -/
  qualified : Dictionary String := {}
  deriving DecidableEq, Repr

namespace IdentifierTable

def register (t : IdentifierTable) (identifier qualified id : String) : IdentifierTable :=
  { ids := (t.ids.insert qualified id).insert identifier id
    qualified := t.qualified.insert qualified id }

def resolve (t : IdentifierTable) (reference : String) : Option String := t.ids.find? reference

def contains (t : IdentifierTable) (reference : String) : Bool := t.ids.contains reference

/-- How many qualified names there are. -/
def size (t : IdentifierTable) : Nat := t.qualified.size

/-- The qualified names of which an identifier is a dotted suffix, in order. -/
def namesEndingWith (t : IdentifierTable) (identifier : String) : List String :=
  t.qualified.keys.filter (isDottedSuffix identifier)

theorem resolve_register (t : IdentifierTable) (identifier qualified id reference : String) :
    (t.register identifier qualified id).resolve reference =
      if reference = identifier ∨ reference = qualified then some id else t.resolve reference := by
  simp only [register, resolve, Dictionary.find?_insert, eq_comm (a := reference)]
  by_cases h : identifier = reference <;> by_cases h' : qualified = reference <;> simp [h, h']

end IdentifierTable

end Blueprint
