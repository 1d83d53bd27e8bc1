/-
  Blueprint.Proofs.Dsl.Writable — lines that are written for elements and relationships.

  What is written of an element can be read again if its texts are clean, its tags can stand in one
  argument, none of them is the tag that marks an external element, and it has no technology where there
  is no place for one. The identifiers that were allocated are words and no reserved ones.

  Proved: headers and lines that begin with a word and end in arguments are statements
  (`solid_arguments`); the arguments of a declaration say what the element says
  (`description_declaredValues`, `readTechnology_eq`, `readTags_eq`).
-/

import Blueprint.Proofs.Dsl.Reading
import Blueprint.Proofs.Identifier.Allocation

namespace Blueprint

open Text Dsl

/-- The texts of an element can be read again. A group is written by its name alone. -/
structure Element.IsWritable (e : Element) : Prop where
  name : IsClean e.name.toList
  description : e.kind ≠ .group → IsClean e.description.toList
  technology : e.kind ≠ .group → ∀ t, e.technology = some t → t ≠ "" ∧ IsClean t.toList ∧ e.kind.hasTechnology = true
  tags : e.kind ≠ .group → ∀ tag ∈ e.tags, IsTag tag ∧ IsClean tag.toList ∧ tag ≠ externalTag

structure Relationship.IsWritable (r : Relationship) : Prop where
  description : IsClean r.description.toList
  technology : ∀ t, r.technology = some t → t ≠ "" ∧ IsClean t.toList
  tags : ∀ tag ∈ r.tags, IsTag tag ∧ IsClean tag.toList

/-- The name of a view is written unless it says nothing or is the key. -/
structure View.IsWritable (v : View) : Prop where
  description : IsClean v.description.toList
  name : v.name ≠ "" → v.name ≠ v.key → IsClean v.name.toList

instance (e : Element) : Decidable e.IsWritable :=
  decidable_of_iff (IsClean e.name.toList ∧ (e.kind ≠ .group → IsClean e.description.toList) ∧
      (e.kind ≠ .group → ∀ t ∈ e.technology, t ≠ "" ∧ IsClean t.toList ∧ e.kind.hasTechnology = true) ∧
      (e.kind ≠ .group → ∀ tag ∈ e.tags, IsTag tag ∧ IsClean tag.toList ∧ tag ≠ externalTag))
    ⟨fun ⟨a, b, c, d⟩ => ⟨a, b, c, d⟩, fun ⟨a, b, c, d⟩ => ⟨a, b, c, d⟩⟩

instance (r : Relationship) : Decidable r.IsWritable :=
  decidable_of_iff (IsClean r.description.toList ∧ (∀ t ∈ r.technology, t ≠ "" ∧ IsClean t.toList) ∧
      ∀ tag ∈ r.tags, IsTag tag ∧ IsClean tag.toList)
    ⟨fun ⟨a, b, c⟩ => ⟨a, b, c⟩, fun ⟨a, b, c⟩ => ⟨a, b, c⟩⟩

instance (v : View) : Decidable v.IsWritable :=
  decidable_of_iff (IsClean v.description.toList ∧ (v.name ≠ "" → v.name ≠ v.key → IsClean v.name.toList))
    ⟨fun ⟨a, b⟩ => ⟨a, b⟩, fun ⟨a, b⟩ => ⟨a, b⟩⟩

/-- Every element has an identifier of its own that is a word and not reserved. -/
structure Allocation.Names (names : Allocation) (es : List Element) : Prop where
  named : ∀ e ∈ es, ∃ i, names.get? e.id = some i ∧ IsWord i.toList ∧ i ∉ reservedWords
  known : ∀ id i, names.get? id = some i → id ∈ es.map (·.id)
  injective : ∀ id other i, names.get? id = some i → names.get? other = some i → id = other

theorem Allocation.names_ofElements {es : List Element} (last : ∀ e ∈ es, e.id.toList.getLast? ≠ some '\n') :
    (Allocation.ofElements es).Names es := by
  have sound := sound_ofElements es
  refine ⟨fun e he => ?_, fun _ _ => mem_of_get?_ofElements, sound.injective⟩
  obtain ⟨i, hi⟩ := exists_get?_ofElements he
  exact ⟨i, hi, sound.isWord hi (last e he), sound.notReserved e.id i hi⟩

namespace Dsl

/-! ## Lines that end in arguments -/

theorem getLast?_quote (cs : List Char) : (quote cs).getLast? = some '"' := by
  rw [quote, ← List.cons_append, List.getLast?_concat]

theorem getLast?_arguments {values : List String} (h : values ≠ []) :
    (arguments values).getLast? = some '"' := by
  induction values with
  | nil => exact absurd rfl h
  | cons v vs ih =>
    rw [arguments_cons, ← List.cons_append, List.getLast?_append]
    cases vs with
    | nil => rw [← List.singleton_append, List.getLast?_append, getLast?_quote]; rfl
    | cons u us => rw [ih (by simp)]; rfl

theorem solid_arguments {front : List Char} (first : ∃ c, front.head? = some c ∧ isAsciiLetter c = true)
    (unbroken : IsUnbroken front) (flat : IsFlat front) {values : List String} (some : values ≠ [])
    (clean : AllClean values) : Solid (front ++ arguments values) := by
  obtain ⟨c, hc, letter⟩ := first
  refine ⟨⟨c, ?_, letter⟩, ⟨'"', ?_, rfl⟩, ?_, flat.append (isFlat_arguments clean)⟩
  · rw [List.head?_append, hc]
    rfl
  · rw [List.getLast?_append, getLast?_arguments some]
    rfl
  · exact isUnbroken_append.2 ⟨unbroken, unbroken_arguments clean⟩

/-- A word and its arguments. -/
theorem solid_word {w : List Char} (h : IsWord w) {values : List String} (some : values ≠ [])
    (clean : AllClean values) :
    Solid (w ++ arguments values) := solid_arguments h.head h.unbroken (isFlat_word h) some clean

/-! ## Elements -/

/-- What a declaration says of an element besides its name. -/
def declaredValues (e : Element) : List String :=
  if e.kind.hasTechnology then [e.description, e.technology.getD "", joinTags (elementTags e)]
  else [e.description, joinTags (elementTags e)]

/-- The texts that stand in quotes where an element is declared. A group is written by its name alone. -/
def declaredTexts (e : Element) : List String := if e.kind = .group then [e.name] else e.name :: declaredValues e

theorem clean_name {e : Element} (clean : AllClean (declaredTexts e)) : IsClean e.name.toList := by
  refine clean e.name ?_
  unfold declaredTexts
  split <;> exact List.mem_cons_self

theorem clean_declaredValues {e : Element} (clean : AllClean (declaredTexts e)) (hk : e.kind ≠ .group) :
    AllClean (declaredValues e) := by
  rw [declaredTexts, if_neg hk] at clean
  exact (allClean_cons.1 clean).2

/-- The technology that a reader finds in the declaration. -/
def readTechnology (e : Element) : Option String :=
  if e.kind.hasTechnology then Builder.optional (dropEmptyEnd (declaredValues e)) 1 else none

/-- The tags that a reader finds in the declaration, the one for external elements among them. -/
def readTags (e : Element) : List String :=
  Builder.tagsAt (dropEmptyEnd (declaredValues e)) (if e.kind.hasTechnology then 2 else 1)

theorem declaration_eq (e : Element) :
    declaration e = e.kind.keyword.toList ++ arguments (e.name :: dropEmptyEnd (declaredValues e)) := by
  simp only [declaration, declaredValues, quotedTail_eq]
  split <;> simp [arguments_cons]

section Element

variable {e : Element} (h : e.IsWritable) (hk : e.kind ≠ .group)

include h hk

theorem isTag_elementTags : ∀ tag ∈ elementTags e, IsTag tag ∧ IsClean tag.toList := by
  have external : IsTag externalTag ∧ IsClean externalTag.toList := ⟨⟨by decide, by decide, by decide⟩, by decide⟩
  intro tag htag
  unfold elementTags at htag
  split at htag
  · rcases List.mem_append.1 htag with own | added
    · exact ⟨(h.tags hk tag own).1, (h.tags hk tag own).2.1⟩
    · exact List.mem_singleton.1 added ▸ external
  · exact ⟨(h.tags hk tag htag).1, (h.tags hk tag htag).2.1⟩

theorem contains_elementTags : (elementTags e).contains externalTag = e.isExternal := by
  have none : externalTag ∉ e.tags := fun own => (h.tags hk _ own).2.2 rfl
  unfold elementTags
  cases e.isExternal with
  | false => simpa using none
  | true => simp [none]

theorem filter_elementTags : (elementTags e).filter (· != externalTag) = e.tags := by
  have own : e.tags.filter (· != externalTag) = e.tags :=
    List.filter_eq_self.2 fun tag htag => by simpa using (h.tags hk tag htag).2.2
  unfold elementTags
  split
  · rw [List.filter_append, own]
    simp
  · exact own

theorem allClean_declaredValues : AllClean (declaredValues e) := by
  have technology : IsClean (e.technology.getD "").toList := by
    cases ht : e.technology with
    | none => exact fun c hc => by cases hc
    | some t => exact (h.technology hk t ht).2.1
  have tags : IsClean (joinTags (elementTags e)).toList :=
    isClean_joinTags fun tag htag => (isTag_elementTags h hk tag htag).2
  unfold declaredValues
  split
  · exact allClean_cons.2 ⟨h.description hk, allClean_cons.2 ⟨technology,
    allClean_cons.2 ⟨tags, fun _ hv => by cases hv⟩⟩⟩
  · exact allClean_cons.2 ⟨h.description hk, allClean_cons.2 ⟨tags, fun _ hv => by cases hv⟩⟩

theorem allClean_declaredTexts : AllClean (declaredTexts e) := by
  rw [declaredTexts, if_neg hk]
  exact allClean_cons.2 ⟨h.name, allClean_declaredValues h hk⟩

theorem readTechnology_eq : readTechnology e = e.technology := by
  unfold readTechnology
  cases ht : e.kind.hasTechnology with
  | false =>
    cases hte : e.technology with
    | none => rfl
    | some t => exact absurd (h.technology hk t hte).2.2 (by simp [ht])
  | true =>
    have second : (declaredValues e)[1]?.getD "" = e.technology.getD "" := by rw [declaredValues, ht]; rfl
    rw [if_pos rfl]
    exact Builder.optional_of_getD ((getD_dropEmptyEnd _ 1).trans second) fun t ht => (h.technology hk t ht).1

theorem readTags_eq : readTags e = elementTags e := by
  have tags := splitTags_joinTags fun tag htag => (isTag_elementTags h hk tag htag).1
  rw [readTags, Builder.tagsAt_eq, getD_dropEmptyEnd, declaredValues]
  split <;> exact tags

end Element

theorem clean_of_isWritable {e : Element} (h : e.IsWritable) : AllClean (declaredTexts e) := by
  by_cases hk : e.kind = .group
  · rw [declaredTexts, if_pos hk]
    exact allClean_singleton.2 h.name
  · exact allClean_declaredTexts h hk

theorem description_declaredValues (e : Element) :
    (dropEmptyEnd (declaredValues e))[0]?.getD "" = e.description := by
  rw [getD_dropEmptyEnd, declaredValues]
  split <;> rfl

end Dsl

end Blueprint
