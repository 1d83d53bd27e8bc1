/-
  Blueprint.Proofs.Identifier.FreeName — the first name that is free (`_unique`, `element_identity`,
  `view_identity`).

  The candidates for a name are all different, so a list of names cannot hold more of them than it has
  members, and the search among one more always ends at a free one.

  Proved: the name that is found is a candidate that is not taken, and every one before it is
  (`firstFree_spec`); so it is the one in which a search that knows no bound ends (`tries_firstFree`), and
  no run of it ends in another (`Tries.unique`). It is the base itself or has the least number behind it
  that makes it free, and so have the readable ids of elements and views (`readable_plainest`).
-/

import Blueprint.Identifier.Fresh
import Mathlib.Data.List.Nodup
import Mathlib.Data.List.Perm.Subperm
import Mathlib.Data.Nat.Init
import Mathlib.Order.Bounds.Defs

namespace Blueprint

theorem candidate_injective (base : String) : Function.Injective (candidate base) := by
  -- a candidate with a number is longer than the base
  have longer : ∀ k, 0 < k → candidate base k ≠ base := by
    intro k hk e
    rw [candidate, if_neg (Nat.pos_iff_ne_zero.1 hk)] at e
    have lengths := congrArg String.length e
    simp only [String.length_append] at lengths
    have one : "_".length = 1 := rfl
    omega
  intro j k e
  rcases Nat.eq_zero_or_pos j with rfl | hj
  · rcases Nat.eq_zero_or_pos k with rfl | hk
    · rfl
    · exact absurd e.symm (longer k hk)
  · rcases Nat.eq_zero_or_pos k with rfl | hk
    · exact absurd e (longer j hj)
    · simp only [candidate, Nat.pos_iff_ne_zero.1 hj, Nat.pos_iff_ne_zero.1 hk, if_false] at e
      have digits := congrArg String.toList e
      simp only [String.toList_append, List.append_cancel_left_eq, natText, String.toList_ofList] at digits
      exact natDigits_injective digits

/-- One more candidate than there are names: one of them is free. -/
theorem exists_candidate_free (base : String) (taken : List String) :
    ∃ k < taken.length + 1, candidate base k ∉ taken := by
  by_contra all
  have inside : (List.range (taken.length + 1)).map (candidate base) ⊆ taken := by
    intro name hname
    obtain ⟨k, hk, rfl⟩ := List.mem_map.1 hname
    by_contra free
    exact all ⟨k, List.mem_range.1 hk, free⟩
  have distinct : ((List.range (taken.length + 1)).map (candidate base)).Nodup :=
    List.nodup_range.map (candidate_injective base)
  have short := (distinct.subperm inside).length_le
  rw [List.length_map, List.length_range] at short
  omega

theorem firstFree_spec (base : String) (taken : List String) :
    ∃ k, firstFree base taken = candidate base k ∧ candidate base k ∉ taken ∧ ∀ j < k, candidate base j ∈ taken := by
  unfold firstFree
  cases h : (List.range (taken.length + 1)).find? fun k => !taken.contains (candidate base k) with
  | none =>
    obtain ⟨k, hk, free⟩ := exists_candidate_free base taken
    exact absurd (List.find?_eq_none.1 h k (List.mem_range.2 hk)) (by simp [free])
  | some k =>
    obtain ⟨free, _, before⟩ := List.find?_range_eq_some.1 h
    refine ⟨k, rfl, by simpa using free, fun j hj => by simpa using before j hj⟩

/-- From the `k`-th candidate on, one after the other is tried until one is free. Nothing bounds the search, so
a run of it is finite only if it finds one. -/
inductive Tries (base : String) (taken : List String) : Nat → String → Prop
  | free {k : Nat} : candidate base k ∉ taken → Tries base taken k (candidate base k)
  | next {k : Nat} {name : String} :
      candidate base k ∈ taken → Tries base taken (k + 1) name → Tries base taken k name

/-- The search from the first candidate ends. -/
theorem tries_firstFree (base : String) (taken : List String) : Tries base taken 0 (firstFree base taken) := by
  obtain ⟨k, found, free, before⟩ := firstFree_spec base taken
  have fromBelow : ∀ j ≤ k, Tries base taken j (candidate base k) := by
    intro j hj
    induction hj using Nat.decreasingInduction with
    | self => exact .free free
    | of_succ j hj ih => exact .next (before j hj) ih
  exact found ▸ fromBelow 0 (Nat.zero_le k)

theorem firstFree_not_mem (base : String) (taken : List String) : firstFree base taken ∉ taken := by
  obtain ⟨k, e, free, _⟩ := firstFree_spec base taken
  rwa [e]

theorem elementIdentity_not_mem (kind : ElementKind) (name : String) (existing : List String) :
    elementIdentity kind name existing ∉ existing := firstFree_not_mem _ _

theorem viewIdentity_not_mem (name : String) (existing : List String) : viewIdentity name existing ∉ existing :=
  firstFree_not_mem _ _

/-! ## The plainest name -/

/-- From the same candidate on, the search cannot end in two ways. -/
theorem Tries.unique {base : String} {taken : List String} {k : Nat} {a b : String} (ha : Tries base taken k a)
    (hb : Tries base taken k b) : a = b := by
  induction ha with
  | free isFree =>
    cases hb with
    | free _ => rfl
    | next isTaken _ => exact absurd isTaken isFree
  | next isTaken _ ih =>
    cases hb with
    | free isFree => exact absurd isTaken isFree
    | next _ later => exact ih later

/-- The base itself if it is free, and otherwise the base with the least number from one on that makes it free. -/
def IsPlainest (base : String) (taken : List String) (name : String) : Prop :=
  (base ∉ taken ∧ name = base) ∨
    (base ∈ taken ∧ ∃ k, IsLeast {k | 1 ≤ k ∧ base ++ "_" ++ natText k ∉ taken} k ∧ name = base ++ "_" ++ natText k)

theorem candidate_of_pos (base : String) {k : Nat} (hk : 1 ≤ k) : candidate base k = base ++ "_" ++ natText k := by
  rw [candidate, if_neg (Nat.pos_iff_ne_zero.1 hk)]

theorem isPlainest_firstFree (base : String) (taken : List String) : IsPlainest base taken (firstFree base taken) := by
  obtain ⟨k, found, free, before⟩ := firstFree_spec base taken
  rcases Nat.eq_zero_or_pos k with rfl | hk
  · exact .inl ⟨free, found⟩
  · -- the base is the candidate before all others
    refine .inr ⟨before 0 hk, k, ⟨⟨hk, candidate_of_pos base hk ▸ free⟩, fun j hj => ?_⟩,
      found.trans (candidate_of_pos base hk)⟩
    by_contra less
    exact hj.2 (candidate_of_pos base hj.1 ▸ before j (Nat.lt_of_not_le less))

/-- Where nothing is taken, the base is free. -/
theorem firstFree_nil (base : String) : firstFree base [] = base := rfl

/-- The search for a free name ends, whatever the base is and whatever is taken, and always in the plainest name
there is. So the readable ids of elements and of views, the plain one of which is the one that is given where no id
exists, are new wherever ids exist. -/
theorem readable_plainest :
    (∀ base taken, (∀ name, Tries base taken 0 name ↔ name = firstFree base taken) ∧
        IsPlainest base taken (firstFree base taken)) ∧
      (∀ kind name existing,
        IsPlainest (elementIdentity kind name []) existing (elementIdentity kind name existing) ∧
          elementIdentity kind name existing ∉ existing) ∧
        ∀ name existing, IsPlainest (viewIdentity name []) existing (viewIdentity name existing) ∧
          viewIdentity name existing ∉ existing := by
  refine ⟨fun base taken => ⟨fun name => ⟨fun ends => ?_, ?_⟩, isPlainest_firstFree base taken⟩, ?_, ?_⟩
  · exact ends.unique (tries_firstFree base taken)
  · rintro rfl
    exact tries_firstFree base taken
  · intro kind name existing
    refine ⟨?_, elementIdentity_not_mem kind name existing⟩
    rw [elementIdentity, firstFree_nil]
    exact isPlainest_firstFree _ existing
  · intro name existing
    refine ⟨?_, viewIdentity_not_mem name existing⟩
    rw [viewIdentity, firstFree_nil]
    exact isPlainest_firstFree _ existing

-- A number that is taken further on does not matter.
example : viewIdentity "main flow" ["MainFlow", "MainFlow_1", "MainFlow_3"] = "MainFlow_2" := by decide +kernel

end Blueprint
