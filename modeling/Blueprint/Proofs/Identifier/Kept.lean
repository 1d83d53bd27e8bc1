/-
  Blueprint.Proofs.Identifier.Kept — what an allocation gives to whom (`IdentifierAllocator`).

  Ids that can stand as identifiers are kept in a first pass, so a made-up identifier can only avoid them.
  Where one of them is taken when its turn comes, the same id was kept further in front: among what is
  taken so far there is nothing else but reserved words, and it is none.

  The second pass makes identifiers up. It is stated here with a search that knows no bound (`Completes`),
  and it ends for every list of elements.

  Proved: whatever ids and names the elements have, the allocation ends, just their ids have identifiers,
  different ids have different ones, none is a reserved word, and every id that can be kept is kept
  (`allots_ofElements`).
-/

import Blueprint.Proofs.Identifier.Allocation

namespace Blueprint

namespace Allocation

variable {a b : Allocation} {e : Element} {es : List Element} {id i : String}

/-! ## The second pass -/

/-- The elements get the identifiers that they lack, one after the other, each searched for until one is free. -/
inductive Completes : Allocation → List Element → Allocation → Prop
  | done (a : Allocation) : Completes a [] a
  | known {a b : Allocation} {e : Element} {es : List Element} :
      a.byId.contains e.id = true → Completes a es b → Completes a (e :: es) b
  | search {a b : Allocation} {e : Element} {es : List Element} {i : String} :
      a.byId.contains e.id = false → Tries (madeUp e) a.taken 0 i → Completes (a.assign e.id i) es b →
        Completes a (e :: es) b

theorem completes_foldl (a : Allocation) (es : List Element) : Completes a es (es.foldl complete a) := by
  induction es generalizing a with
  | nil => exact .done a
  | cons e es ih =>
    have later := ih (a.complete e)
    rw [List.foldl_cons]
    unfold complete at later ⊢
    split
    · next known =>
      rw [if_pos known] at later
      exact .known known later
    · next unknown =>
      rw [if_neg unknown] at later
      exact .search (by simpa using unknown) (tries_firstFree _ _) later

/-! ## Ids that are kept -/

/-- Whatever is taken is a reserved word or an id that was kept. -/
def OnlyKept (a : Allocation) : Prop := ∀ w ∈ a.taken, w ∈ reservedWords ∨ a.get? w = some w

theorem get?_keep_of_kept (h : a.get? id = some id) (e : Element) : (a.keep e).get? id = some id := by
  unfold keep
  split
  · rw [get?_assign]
    split
    · next same => rw [same]
    · exact h
  · exact h

theorem OnlyKept.keep (h : a.OnlyKept) (e : Element) : (a.keep e).OnlyKept := by
  intro w hw
  by_cases old : w ∈ a.taken
  · exact (h w old).imp_right fun kept => get?_keep_of_kept kept e
  · unfold Allocation.keep at hw ⊢
    split at hw
    · next free =>
      have new : w = e.id := (List.mem_cons.1 hw).resolve_right old
      rw [if_pos free, get?_assign, new, if_pos rfl]
      exact .inr rfl
    · exact absurd hw old

theorem notReserved_of_isIdentifier (h : isIdentifier id = true) : id ∉ reservedWords := by
  simp only [isIdentifier, Bool.and_eq_true, Bool.not_eq_true', List.contains_eq_mem, decide_eq_false_iff_not] at h
  exact h.1

/-- An id that can be kept is kept when its turn comes, or was before. -/
theorem OnlyKept.get?_keep_self (h : a.OnlyKept) (able : isIdentifier e.id = true) :
    (a.keep e).get? e.id = some e.id := by
  by_cases taken : e.id ∈ a.taken
  · have kept := (h e.id taken).resolve_left (notReserved_of_isIdentifier able)
    exact get?_keep_of_kept kept e
  · rw [Allocation.keep, if_pos (by simp [able, taken]), get?_assign, if_pos rfl]

theorem get?_foldl_keep_of_kept (h : a.get? id = some id) (es : List Element) :
    (es.foldl keep a).get? id = some id :=
  List.foldlRecOn (motive := fun a => a.get? id = some id) es keep h fun _ kept e _ => get?_keep_of_kept kept e

theorem OnlyKept.get?_foldl_keep (h : a.OnlyKept) (he : e ∈ es) (able : isIdentifier e.id = true) :
    (es.foldl Allocation.keep a).get? e.id = some e.id := by
  induction es generalizing a with
  | nil => cases he
  | cons f es ih =>
    rw [List.foldl_cons]
    rcases List.mem_cons.1 he with rfl | later
    · exact get?_foldl_keep_of_kept (h.get?_keep_self able) es
    · exact ih (h.keep f) later

/-- The second pass changes no identifier that there is. -/
theorem get?_complete_of_some (h : a.get? id = some i) (e : Element) : (a.complete e).get? id = some i := by
  unfold complete
  split
  · exact h
  · next unknown =>
    have other : e.id ≠ id := by
      rintro rfl
      have known : a.byId.contains e.id = true := Option.isSome_iff_exists.2 ⟨i, h⟩
      exact unknown known
    rw [get?_assign, if_neg other, h]

theorem get?_ofElements_of_able (he : e ∈ es) (able : isIdentifier e.id = true) :
    (ofElements es).get? e.id = some e.id := by
  have none : OnlyKept {} := fun _ hw => .inl hw
  exact List.foldlRecOn (motive := fun a => a.get? e.id = some e.id) es complete (none.get?_foldl_keep he able)
    fun _ kept f _ => get?_complete_of_some kept f

/-! ## The whole allocation -/

/-- What is asked of an allocation for some elements. -/
structure Allots (es : List Element) (a : Allocation) : Prop where
  /-- The search for free names ends for each element in turn. -/
  ends : Completes (es.foldl keep {}) es a
  named : ∀ id, (a.get? id).isSome ↔ id ∈ es.map (·.id)
  injective : ∀ id other i, a.get? id = some i → a.get? other = some i → id = other
  notReserved : ∀ id i, a.get? id = some i → i ∉ reservedWords
  kept : ∀ e ∈ es, isIdentifier e.id = true → a.get? e.id = some e.id

theorem allots_ofElements (es : List Element) : Allots es (ofElements es) := by
  have sound := sound_ofElements es
  refine ⟨completes_foldl _ es, fun id => ⟨fun some => ?_, fun member => ?_⟩, sound.injective, sound.notReserved,
    fun e he able => get?_ofElements_of_able he able⟩
  · obtain ⟨i, hi⟩ := Option.isSome_iff_exists.1 some
    exact mem_of_get?_ofElements hi
  · exact isSome_get?_foldl es _ (.inr member)

/-- The fallback of the first element would be the id of the last, and the second has the first one's id. -/
example : (ofElements
    [{ id := "ab-1", kind := .person, name := "Ann" }, { id := "ab-1", kind := .person, name := "Bob" },
      { id := "Ann_ab1", kind := .person, name := "Ann" }]).identifiers = ["Ann_ab1", "Ann_ab1_1"] := by decide +kernel

end Allocation

end Blueprint
