/-
  Blueprint.Proofs.Identifier.Allocation — every element of a document has an identifier of its own.

  While identifiers are handed out, all that were are taken, and so are the reserved words. A made-up
  identifier is the first of its kind that is not taken, so no two ids share one. An identifier is a word
  (an ASCII letter, then letters, digits and low lines) unless an id is kept that ends in a line feed.

  Proved: every element's id has an identifier (`exists_get?_ofElements`), different ids have different
  ones (`sound_ofElements`), and where no id ends in a line feed they are words (`Sound.isWord`).
-/

import Blueprint.Identifier.Allocation
import Blueprint.Proofs.Identifier.FreeName
import Blueprint.Proofs.Identifier.Word

namespace Blueprint

open Text

theorem isAsciiDigit_digitChar {d : Nat} (h : d < 10) : isAsciiDigit (digitChar d) = true := by
  revert d
  decide

theorem isAsciiDigit_of_mem_natDigits {n : Nat} {c : Char} (h : c ∈ natDigits n) : isAsciiDigit c = true := by
  fun_induction natDigits n with
  | case1 n small => exact List.mem_singleton.1 h ▸ isAsciiDigit_digitChar small
  | case2 n _ ih =>
    rcases List.mem_append.1 h with h | h
    · exact ih h
    · exact List.mem_singleton.1 h ▸ isAsciiDigit_digitChar (Nat.mod_lt n (by decide))

theorem toList_natText (n : Nat) : (natText n).toList = natDigits n := String.toList_ofList

theorem isWord_candidate {base : String} (h : IsWord base.toList) (k : Nat) :
    IsWord (candidate base k).toList := by
  unfold candidate
  split
  · exact h
  · rw [String.toList_append, String.toList_append, toList_natText]
    refine (h.append (List.all_eq_true.1 rfl)).append fun d hd => ?_
    exact isIdentifierChar_of_digit (isAsciiDigit_of_mem_natDigits hd)

theorem isWord_firstFree {base : String} (h : IsWord base.toList) (taken : List String) :
    IsWord (firstFree base taken).toList := by
  obtain ⟨k, e, _⟩ := firstFree_spec base taken
  exact e ▸ isWord_candidate h k

namespace Allocation

theorem isWord_madeUp (e : Element) : IsWord (madeUp e).toList := by
  have alphanumeric : ∀ {cs : List Char}, ∀ d ∈ cs.filter isAsciiAlphanumeric, isIdentifierChar d = true := by
    intro cs d hd
    have : isAsciiAlphanumeric d = true := (List.mem_filter.1 hd).2
    simp [isIdentifierChar, this]
  have ended : ∀ {short base : List Char}, (∀ d ∈ short, isIdentifierChar d = true) → IsWord base →
      IsWord (if short.isEmpty then base else base ++ '_' :: short) := by
    intro short base all word
    split
    · exact word
    · exact word.append (List.forall_mem_cons.2 ⟨rfl, all⟩)
  have element : IsWord "element".toList := by decide
  rw [madeUp, String.toList_ofList]
  refine ended (fun d hd => alphanumeric d (List.mem_of_mem_take hd)) ?_
  cases hl : e.name.toList.filter isAsciiAlphanumeric with
  | nil => exact element
  | cons c cs =>
    have all : ∀ d ∈ c :: cs, isIdentifierChar d = true := hl ▸ alphanumeric
    by_cases letter : isAsciiLetter c = true
    · simp only [letter, if_true]
      exact ⟨c, cs, rfl, letter, fun d hd => all d (List.mem_cons_of_mem _ hd)⟩
    · simp only [letter]
      exact element.append all

/-- What has been handed out is taken and not reserved, and no two ids share an identifier. -/
structure Sound (a : Allocation) : Prop where
  reserved : ∀ word ∈ reservedWords, word ∈ a.taken
  taken : ∀ id i, a.get? id = some i → i ∈ a.taken
  notReserved : ∀ id i, a.get? id = some i → i ∉ reservedWords
  injective : ∀ id other i, a.get? id = some i → a.get? other = some i → id = other
  words : ∀ id i, a.get? id = some i → IsWord i.toList ∨ (i = id ∧ isIdentifier id = true)

variable {a : Allocation}

theorem get?_assign (a : Allocation) (id identifier other : String) :
    (a.assign id identifier).get? other = if id = other then some identifier else a.get? other :=
  Dictionary.find?_insert _ _ _ _

theorem Sound.empty : Sound {} :=
  ⟨fun _ h => h, fun _ _ h => (nomatch h), fun _ _ h => (nomatch h), fun _ _ _ h => (nomatch h),
    fun _ _ h => (nomatch h)⟩

theorem Sound.assign (h : a.Sound) {id identifier : String} (free : identifier ∉ a.taken)
    (word : IsWord identifier.toList ∨ (identifier = id ∧ isIdentifier id = true)) :
      (a.assign id identifier).Sound := by
  -- an identifier that was handed out before is not the new one
  have older : ∀ {other}, a.get? other ≠ some identifier := fun known => free (h.taken _ _ known)
  refine ⟨?_, ?_, ?_, ?_, ?_⟩
  · exact fun w hw => List.mem_cons_of_mem _ (h.reserved w hw)
  · intro x i hx
    rw [get?_assign] at hx
    split at hx
    · cases hx; exact List.mem_cons_self
    · exact List.mem_cons_of_mem _ (h.taken x i hx)
  · intro x i hx
    rw [get?_assign] at hx
    split at hx
    · cases hx; exact fun reserved => free (h.reserved _ reserved)
    · exact h.notReserved x i hx
  · intro x y i hx hy
    rw [get?_assign] at hx hy
    split at hx <;> split at hy
    · next ex ey => exact ex.symm.trans ey
    · cases hx; exact absurd hy older
    · cases hy; exact absurd hx older
    · exact h.injective x y i hx hy
  · intro x i hx
    rw [get?_assign] at hx
    split at hx
    · next ex => cases hx; exact ex ▸ word
    · exact h.words x i hx

theorem Sound.keep (h : a.Sound) (e : Element) : (a.keep e).Sound := by
  unfold Allocation.keep
  split
  · next free =>
    simp only [Bool.and_eq_true, Bool.not_eq_true', List.contains_eq_mem, decide_eq_false_iff_not] at free
    exact h.assign free.2 (.inr ⟨rfl, free.1⟩)
  · exact h

theorem Sound.complete (h : a.Sound) (e : Element) : (a.complete e).Sound := by
  unfold Allocation.complete
  split
  · exact h
  · exact h.assign (firstFree_not_mem _ _) (.inl (isWord_firstFree (isWord_madeUp e) _))

theorem sound_ofElements (elements : List Element) : (ofElements elements).Sound := by
  have kept : (elements.foldl Allocation.keep {}).Sound :=
    List.foldlRecOn elements Allocation.keep Sound.empty fun _ h e _ => h.keep e
  exact List.foldlRecOn elements Allocation.complete kept fun _ h e _ => h.complete e

/-! ## Every id has one -/

theorem isSome_get?_complete (a : Allocation) (e : Element) {id : String} (h : (a.get? id).isSome ∨ id = e.id) :
    ((a.complete e).get? id).isSome := by
  unfold Allocation.complete
  split
  · next known =>
    rcases h with old | rfl
    · exact old
    · exact known
  · rw [get?_assign]
    split
    · rfl
    · next other => exact h.resolve_right fun e => other e.symm

theorem isSome_get?_foldl (elements : List Element) (a : Allocation) {id : String}
    (h : (a.get? id).isSome ∨ id ∈ elements.map (·.id)) : ((elements.foldl complete a).get? id).isSome := by
  induction elements generalizing a with
  | nil => simpa using h
  | cons e es ih =>
    refine ih (a.complete e) ?_
    rw [List.map_cons, List.mem_cons, ← or_assoc] at h
    exact h.imp_left (isSome_get?_complete a e)

theorem exists_get?_ofElements {elements : List Element} {e : Element} (he : e ∈ elements) :
    ∃ i, (ofElements elements).get? e.id = some i :=
  Option.isSome_iff_exists.1 (isSome_get?_foldl elements _ (.inr (List.mem_map_of_mem he)))

theorem get?_keep {e : Element} {id i : String} (h : (a.keep e).get? id = some i) :
    a.get? id = some i ∨ id = e.id := by
  unfold Allocation.keep at h
  split at h
  · rw [get?_assign] at h
    split at h
    · next same => exact .inr same.symm
    · exact .inl h
  · exact .inl h

theorem get?_complete {e : Element} {id i : String} (h : (a.complete e).get? id = some i) :
    a.get? id = some i ∨ id = e.id := by
  unfold Allocation.complete at h
  split at h
  · exact .inl h
  · rw [get?_assign] at h
    split at h
    · next same => exact .inr same.symm
    · exact .inl h

/-- Only the ids of elements have identifiers. -/
theorem mem_of_get?_ofElements {elements : List Element} {id i : String}
    (h : (ofElements elements).get? id = some i) :
    id ∈ elements.map (·.id) := by
  have member : ∀ e ∈ elements, ∀ id, id = e.id → id ∈ elements.map (·.id) :=
    fun e he _ same => same ▸ List.mem_map_of_mem he
  have kept : ∀ id i, (elements.foldl Allocation.keep {}).get? id = some i → id ∈ elements.map (·.id) :=
    List.foldlRecOn (motive := fun a => ∀ id i, a.get? id = some i → id ∈ elements.map (·.id)) elements
      Allocation.keep
      (by intro _ _ none; cases none) fun a ih e he id i hi => (get?_keep hi).elim (ih id i) (member e he id)
  exact List.foldlRecOn (motive := fun a => ∀ id i, a.get? id = some i → id ∈ elements.map (·.id)) elements
    Allocation.complete kept (fun a ih e he id i hi => (get?_complete hi).elim (ih id i) (member e he id)) id i h

theorem dropFinalLineFeed_of_last {cs : List Char} (h : cs.getLast? ≠ some '\n') :
    dropFinalLineFeed cs = cs := by
  fun_induction dropFinalLineFeed cs with
  | case1 => rfl
  | case2 => exact absurd rfl h
  | case3 c cs single ih =>
    cases cs with
    | nil => rfl
    | cons d ds => rw [ih (by simpa using h)]

/-- An id that is kept is a word, unless a line feed ends it. -/
theorem Sound.isWord (h : a.Sound) {id i : String} (hi : a.get? id = some i)
    (last : id.toList.getLast? ≠ some '\n') :
    IsWord i.toList := by
  rcases h.words id i hi with word | ⟨rfl, kept⟩
  · exact word
  · simp only [isIdentifier, Bool.and_eq_true] at kept
    revert last kept
    cases i.toList with
    | nil => exact fun _ kept => by simp at kept
    | cons c cs =>
      intro last kept
      simp only [Bool.and_eq_true, List.all_eq_true] at kept
      obtain ⟨_, letter, all⟩ := kept
      have same : dropFinalLineFeed cs = cs := by
        cases cs with
        | nil => rfl
        | cons d ds => exact dropFinalLineFeed_of_last (by simpa using last)
      rw [same] at all
      exact ⟨c, cs, rfl, letter, all⟩

end Allocation

end Blueprint
