/-
  Blueprint.Proofs.Identifier.Source — ids that are drawn once.

  A source is fresh if no id comes twice, none is blank and none is the root view's. An id is drawn if it
  came up to some count, and spent if it does not come any more from that count on; what a fresh source
  has drawn is spent, and so is the root view's id from the start.

  Proved: ids drawn one after the other are distinct, and none is spent before (`nodup_following`,
  `not_spent_following`); so the ids in use stay apart as they get more (`Apart.following`).
-/

import Blueprint.Validation.Rules
import Mathlib.Data.List.Nodup

namespace Blueprint

namespace IdSource

structure Fresh (ids : IdSource) : Prop where
  injective : Function.Injective ids
  notBlank : ∀ n, isBlankText (ids n) = false
  notLandscape : ∀ n, ids n ≠ landscapeId

/-- The id is among the first that are drawn. -/
def Drawn (ids : IdSource) (drawn : Nat) (id : String) : Prop := ∃ n < drawn, ids n = id

/-- The id is none of those that are still to be drawn. -/
def Spent (ids : IdSource) (drawn : Nat) (id : String) : Prop := ∀ n, drawn ≤ n → ids n ≠ id

/-- The next ids, as many as are asked for. -/
def following (ids : IdSource) (drawn count : Nat) : List String := (List.range count).map fun i => ids (drawn + i)

variable {ids : IdSource} {drawn later : Nat} {id : String}

theorem Drawn.mono (h : ids.Drawn drawn id) (le : drawn ≤ later) : ids.Drawn later id :=
  let ⟨n, hn, e⟩ := h; ⟨n, Nat.lt_of_lt_of_le hn le, e⟩

theorem drawn_succ (ids : IdSource) (drawn : Nat) : ids.Drawn (drawn + 1) (ids drawn) :=
  ⟨drawn, Nat.lt_succ_self _, rfl⟩

theorem Spent.mono (h : ids.Spent drawn id) (le : drawn ≤ later) : ids.Spent later id :=
  fun n hn => h n (Nat.le_trans le hn)

theorem not_spent (ids : IdSource) (drawn : Nat) : ¬ ids.Spent drawn (ids drawn) :=
  fun h => h drawn (Nat.le_refl _) rfl

namespace Fresh

theorem ne_empty (h : ids.Fresh) (n : Nat) : ids n ≠ "" := by
  intro empty
  have notBlank := h.notBlank n
  rw [empty] at notBlank
  exact absurd notBlank (by decide)

theorem spent_of_drawn (h : ids.Fresh) (hd : ids.Drawn drawn id) : ids.Spent drawn id := by
  obtain ⟨k, hk, rfl⟩ := hd
  intro n hn e
  have := h.injective e
  omega

theorem spent_landscape (h : ids.Fresh) (drawn : Nat) : ids.Spent drawn landscapeId := fun n _ => h.notLandscape n

theorem spent_succ (h : ids.Fresh) (drawn : Nat) : ids.Spent (drawn + 1) (ids drawn) :=
  h.spent_of_drawn (drawn_succ ids drawn)

theorem nodup_following (h : ids.Fresh) (drawn count : Nat) : (ids.following drawn count).Nodup :=
  List.Nodup.map (fun i j e => by have := h.injective e; omega) List.nodup_range

end Fresh

theorem drawn_of_mem_following {count : Nat} (h : id ∈ ids.following drawn count) :
    ids.Drawn (drawn + count) id := by
  obtain ⟨i, hi, rfl⟩ := List.mem_map.1 h
  have := List.mem_range.1 hi
  exact ⟨drawn + i, by omega, rfl⟩

theorem not_spent_following {count : Nat} (h : id ∈ ids.following drawn count) : ¬ ids.Spent drawn id := by
  obtain ⟨i, _, rfl⟩ := List.mem_map.1 h
  exact fun spent => spent (drawn + i) (Nat.le_add_right _ _) rfl

theorem following_succ (ids : IdSource) (drawn count : Nat) :
    ids.following drawn (count + 1) = ids drawn :: ids.following (drawn + 1) count := by
  simp only [following, List.range_succ_eq_map, List.map_cons, List.map_map, Nat.add_zero, List.cons.injEq, true_and]
  exact List.map_congr_left fun i _ => by simp only [Function.comp_apply]; congr 1; omega

theorem following_append (ids : IdSource) (drawn m n : Nat) :
    ids.following drawn m ++ ids.following (drawn + m) n = ids.following drawn (m + n) := by
  induction m generalizing drawn with
  | zero => simp [following]
  | succ m ih =>
    rw [following_succ, List.cons_append, show drawn + (m + 1) = drawn + 1 + m by omega, ih (drawn + 1),
      ← following_succ, show m + n + 1 = m + 1 + n by omega]

/-! ## Ids in use -/

/-- Names that are all different, and none of them still to be drawn. -/
structure Apart (ids : IdSource) (drawn : Nat) (names : List String) : Prop where
  distinct : names.Nodup
  spent : ∀ id ∈ names, ids.Spent drawn id

namespace Apart

variable {names : List String}

theorem mono (h : ids.Apart drawn names) (le : drawn ≤ later) : ids.Apart later names :=
  ⟨h.distinct, fun id hid => (h.spent id hid).mono le⟩

theorem sublist {fewer : List String} (h : ids.Apart drawn names) (less : fewer.Sublist names) :
    ids.Apart drawn fewer :=
  ⟨h.distinct.sublist less, fun id hid => h.spent id (less.subset hid)⟩

theorem following (hids : ids.Fresh) (h : ids.Apart drawn names) (count : Nat) :
    ids.Apart (drawn + count) (names ++ ids.following drawn count) := by
  refine ⟨List.nodup_append.2 ⟨h.distinct, hids.nodup_following _ _, ?_⟩, List.forall_mem_append.2 ⟨?_, ?_⟩⟩
  · rintro id hk _ added rfl
    exact not_spent_following added (h.spent id hk)
  · exact (h.mono (Nat.le_add_right _ _)).spent
  · exact fun id added => hids.spent_of_drawn (drawn_of_mem_following added)

theorem map {f : String → String} (h : ids.Apart drawn names)
    (apart : ∀ a ∈ names, ∀ b ∈ names, f a = f b → a = b) (spent : ∀ a ∈ names, ids.Spent drawn (f a)) :
    ids.Apart drawn (names.map f) :=
  ⟨h.distinct.map_on fun a ha b hb => apart a ha b hb, List.forall_mem_map.2 spent⟩

end Apart

theorem Fresh.apart_landscape (h : ids.Fresh) (drawn : Nat) : ids.Apart drawn [landscapeId] :=
  ⟨List.nodup_singleton _, List.forall_mem_singleton.2 (h.spent_landscape drawn)⟩

/-! ## Sources -/

/-- One more of the same character for each id. -/
def repeated (c : Char) : IdSource := fun n => String.ofList (List.replicate (n + 1) c)

theorem fresh_repeated {c : Char} (notBlank : Text.isBlank c = false) (other : c ≠ 'l') : (repeated c).Fresh := by
  refine ⟨fun m n e => ?_, fun n => ?_, fun n e => ?_⟩
  · have lengths := congrArg String.length e
    simpa [repeated] using lengths
  · simp [repeated, isBlankText, Text.allBlank, List.replicate_succ, notBlank]
  · have first := congrArg (fun s : String => s.toList.head?) e
    simp [repeated, landscapeId, List.replicate_succ] at first
    exact other first

/-- A fresh source: one stroke more for each id. -/
def strokes : IdSource := fun n => String.ofList (List.replicate (n + 1) 'i')

theorem fresh_strokes : strokes.Fresh := fresh_repeated (c := 'i') rfl (by decide)

end IdSource

end Blueprint
