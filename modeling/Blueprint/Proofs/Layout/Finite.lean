/-
  Blueprint.Proofs.Layout.Finite — positions with numbers for coordinates.

  A coordinate that is asked for may be too large for a number, or none at all. A cell of the grid has numbers
  for coordinates as long as the cells in front of it can be counted with one, and what is found among recorded
  positions was recorded.

  Proved: a whole number below a large power of two is finite (`isFinite_ofInt`), and so is a cell that has not
  more than that in front of it (`isFinite_gridCell`); where all recorded positions are finite, every position
  that is made of them or of the grid is (`isFinite_resolve`).
-/

import Blueprint.Proofs.Layout.Positions
import Blueprint.Proofs.Number.Whole

namespace Blueprint

/-- Both coordinates are numbers. -/
def Position.IsFinite (p : Position) : Prop := p.x.isFinite = true ∧ p.y.isFinite = true

instance (p : Position) : Decidable p.IsFinite := inferInstanceAs (Decidable (_ ∧ _))

/-! ## Whole numbers and cells -/

theorem log2_lt_of_lt_twoTo {n k : Nat} (nonzero : n ≠ 0) (h : n < twoTo k) : n.log2 < k := (Nat.log2_lt nonzero).2 h

namespace Binary64

theorem isFinite_ofRatio_one (negative : Bool) {n : Nat} (h : n < twoTo 1023) :
    (ofRatio negative n 1).isFinite = true := by
  unfold ofRatio
  by_cases zero : n = 0
  · rw [if_pos zero]
    rfl
  · have log : n.log2 < 1023 := log2_lt_of_lt_twoTo zero h
    have unit : unitExponent n 1 ≤ 970 := by
      rw [unitExponent_one zero]
      exact Int.max_le.2 ⟨by decide, by omega⟩
    have greatest : greatestExponent = 971 := rfl
    rw [if_neg zero]
    dsimp only
    generalize (if 0 ≤ unitExponent n 1 then _ else _ : Nat) = m
    -- a mantissa that is rounded up to one bit more counts in twice the unit
    by_cases full : m = twoTo 53
    · rw [if_pos full, if_neg (by rw [greatest]; exact Int.not_lt.2 (Int.add_le_add_right unit 1))]
      rfl
    · rw [if_neg full, if_neg (by rw [greatest]; dsimp only; omega)]
      rfl

theorem isFinite_ofInt {n : Int} (h : n.natAbs < twoTo 1023) : (ofInt n).isFinite = true := isFinite_ofRatio_one _ h

end Binary64

/-- So many cells can be counted with numbers. -/
def cellBound : Nat := twoTo 1000

theorem isFinite_gridCell {i : Nat} (h : i ≤ cellBound) : (gridCell i).IsFinite := by
  have large : twoTo 1023 = cellBound * twoTo 23 := by rw [cellBound, ← twoTo_add]
  have wide : twoTo 23 = 8388608 := by decide
  have some : 0 < cellBound := twoTo_pos _
  have column : Int.fmod (i : Int) 4 = i % 4 := Int.fmod_eq_emod_of_nonneg _ (by decide)
  have row : Int.fdiv (i : Int) 4 = i / 4 := Int.fdiv_eq_ediv_of_nonneg _ (by decide)
  refine ⟨?_, ?_⟩
  · show (Binary64.ofInt (40 + Int.fmod i 4 * (220 + 60))).isFinite = true
    refine Binary64.isFinite_ofInt ?_
    rw [large, wide, column]
    omega
  · show (Binary64.ofInt (40 + Int.fdiv i 4 * (140 + 80))).isFinite = true
    refine Binary64.isFinite_ofInt ?_
    rw [large, wide, row]
    omega

/-! ## Recorded positions -/

/-- Every position in the dictionary has numbers for coordinates. -/
def AllFinite (ps : Dictionary Position) : Prop := ∀ e ∈ ps.entries, e.2.IsFinite

namespace AllFinite

variable {ps : Dictionary Position} {p : Position} {key : String}

theorem nothing : AllFinite {} := fun _ h => nomatch h

theorem insert (h : AllFinite ps) (finite : p.IsFinite) (key : String) : AllFinite (ps.insert key p) := by
  intro e he
  rcases Dictionary.mem_write he with rfl | he
  · exact finite
  · exact h e he

theorem find? (h : AllFinite ps) (found : ps.find? key = some p) : p.IsFinite := h _ (Dictionary.mem_of_lookup found)

theorem record {ps : Positions} (h : AllFinite ps) (finite : p.IsFinite) (table : IdentifierTable)
    (identifier : String) : AllFinite (ps.record table identifier p) := by
  intro e he
  rcases Dictionary.mem_insertAll he with ⟨_, same⟩ | he
  · exact same ▸ finite
  · exact h.insert finite identifier e he

theorem lookup {ps : Positions} (h : AllFinite ps) (found : ps.lookup key = some p) : p.IsFinite := by
  unfold Positions.lookup at found
  rcases Option.or_eq_some_iff.1 found with named | ⟨_, found⟩
  · exact h.find? named
  rcases Option.or_eq_some_iff.1 found with last | ⟨_, found⟩
  · obtain ⟨_, _, last⟩ := Option.bind_eq_some_iff.1 last
    exact h.find? last
  · obtain ⟨e, he, rfl⟩ := Option.map_eq_some_iff.1 found
    exact h e (List.mem_of_find?_eq_some he)

end AllFinite

theorem isFinite_resolve {ps : Positions} (h : AllFinite ps) (identifier : String) {i : Nat} (few : i ≤ cellBound) :
    (ps.resolve identifier i).IsFinite := by
  unfold Positions.resolve
  cases found : ps.lookup identifier with
  | none => exact isFinite_gridCell few
  | some p => exact h.lookup found

end Blueprint
