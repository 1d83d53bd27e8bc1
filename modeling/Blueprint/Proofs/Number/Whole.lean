/-
  Blueprint.Proofs.Number.Whole — whole floating-point numbers and their numerals.

  A number is kept in one form: 53 bits of mantissa over an exponent in range, or fewer bits over the
  least exponent. A whole number that is kept so is the nearest number to the integer that it is, so the
  integer's numeral reads as the number. Only the sign of zero is lost.

  Proved: rounding a positive whole number leaves it (`ofRatio_one`); the numeral of a whole number reads
  as the number (`value_wholeNumeral`).
-/

import Blueprint.Dsl.Clause

namespace Blueprint

namespace Binary64

/-- The one form in which a number is kept. -/
def IsKept : Binary64 → Prop
  | .finite _ m e =>
    m < twoTo 53 ∧ leastExponent ≤ e ∧ e ≤ greatestExponent ∧ (twoTo 52 ≤ m ∨ e = leastExponent)
  | .infinite _ => True
  | .undefined => True

instance (x : Binary64) : Decidable x.IsKept :=
  match x with
  | .finite _ m e => inferInstanceAs (Decidable (m < twoTo 53 ∧ leastExponent ≤ e ∧ e ≤ greatestExponent ∧
      (twoTo 52 ≤ m ∨ e = leastExponent)))
  | .infinite _ => inferInstanceAs (Decidable True)
  | .undefined => inferInstanceAs (Decidable True)

/-- The number is an integer. -/
def IsWhole (x : Binary64) : Prop := x.IsKept ∧ x.toInt?.isSome

instance (x : Binary64) : Decidable x.IsWhole := inferInstanceAs (Decidable (_ ∧ _))

/-- The same number, a zero without its sign. -/
def plain : Binary64 → Binary64
  | .finite negative m e => if m = 0 then .finite false 0 leastExponent else .finite negative m e
  | .infinite negative => .infinite negative
  | .undefined => .undefined

/-- The integer nearest to a number. -/
def nearest : Binary64 → Int
  | .finite negative m e => nearestInt negative m e
  | .infinite _ => 0
  | .undefined => 0

end Binary64

/-- The numeral of an integer. -/
def wholeNumeral (n : Int) : Dsl.Numeral := { negative := n < 0, whole := natDigits n.natAbs, fraction := none }

/-! ## Powers of two -/

theorem log2_eq_iff {n k : Nat} (h : n ≠ 0) : n.log2 = k ↔ twoTo k ≤ n ∧ n < twoTo (k + 1) := Nat.log2_eq_iff h

theorem twoTo_add (j k : Nat) : twoTo (j + k) = twoTo j * twoTo k := Nat.pow_add 2 j k

/-- A number of 53 bits, moved up. -/
theorem log2_mul_twoTo {m : Nat} (low : twoTo 52 ≤ m) (high : m < twoTo 53) (k : Nat) :
    (m * twoTo k).log2 = 52 + k := by
  have pos : m * twoTo k ≠ 0 := Nat.mul_ne_zero (Nat.ne_of_gt (Nat.lt_of_lt_of_le (twoTo_pos 52) low))
    (Nat.ne_of_gt (twoTo_pos k))
  have up : 52 + k + 1 = 53 + k := by omega
  rw [log2_eq_iff pos, up, twoTo_add, twoTo_add]
  exact ⟨Nat.mul_le_mul_right _ low, Nat.mul_lt_mul_of_pos_right high (twoTo_pos k)⟩

namespace Binary64

/-! ## Rounding a whole number -/

theorem unitExponent_one {n : Nat} (h : n ≠ 0) : unitExponent n 1 = max leastExponent ((n.log2 : Int) - 52) := by
  have one : (1 : Nat).log2 = 0 := by decide
  have reaches : twoTo n.log2 ≤ n := Nat.log2_self_le h
  simp [unitExponent, one, reaches]

/-- The mantissa and the exponent stand for this natural number. -/
def StandsFor (m : Nat) (e : Int) (n : Nat) : Prop :=
  (0 ≤ e ∧ n = m * twoTo e.toNat) ∨ (e < 0 ∧ m = n * twoTo (-e).toNat)

theorem log2_of_standsFor {m n : Nat} {e : Int} (low : twoTo 52 ≤ m) (high : m < twoTo 53) (h : StandsFor m e n) :
    n ≠ 0 ∧ (n.log2 : Int) = 52 + e := by
  rcases h with ⟨up, rfl⟩ | ⟨down, rfl⟩
  · refine ⟨Nat.mul_ne_zero (Nat.ne_of_gt (Nat.lt_of_lt_of_le (twoTo_pos 52) low)) (Nat.ne_of_gt (twoTo_pos _)), ?_⟩
    rw [log2_mul_twoTo low high]
    omega
  · generalize hk : (-e).toNat = k at low high
    have nonzero : n ≠ 0 := by
      rintro rfl
      rw [Nat.zero_mul] at low
      exact absurd low (Nat.not_le_of_gt (twoTo_pos 52))
    -- the whole part has a bit, so at most 52 are behind the point
    have few : k < 53 := Nat.lt_of_not_le fun many => by
      have large : twoTo 53 ≤ twoTo k := Nat.pow_le_pow_right (by decide) many
      have whole : twoTo k ≤ n * twoTo k := Nat.le_mul_of_pos_left _ (Nat.pos_of_ne_zero nonzero)
      exact absurd high (Nat.not_lt_of_ge (Nat.le_trans large whole))
    have lowSplit : twoTo 52 = twoTo (52 - k) * twoTo k := by rw [← twoTo_add]; congr 1; omega
    have highSplit : twoTo 53 = twoTo (52 - k + 1) * twoTo k := by rw [← twoTo_add]; congr 1; omega
    have log : n.log2 = 52 - k := by
      rw [log2_eq_iff nonzero]
      rw [lowSplit] at low
      rw [highSplit] at high
      exact ⟨Nat.le_of_mul_le_mul_right low (twoTo_pos k), Nat.lt_of_mul_lt_mul_right high⟩
    refine ⟨nonzero, ?_⟩
    rw [log]
    omega

/-- A whole number of 53 bits is the number nearest to itself. -/
theorem ofRatio_one (negative : Bool) {m n : Nat} {e : Int} (low : twoTo 52 ≤ m) (high : m < twoTo 53)
    (least : leastExponent ≤ e) (greatest : e ≤ greatestExponent) (h : StandsFor m e n) :
    ofRatio negative n 1 = .finite negative m e := by
  obtain ⟨nonzero, log⟩ := log2_of_standsFor low high h
  have unit : unitExponent n 1 = e := by
    rw [unitExponent_one nonzero, log]
    omega
  have mantissa : (if 0 ≤ e then divHalfEven n (1 * twoTo e.toNat) else divHalfEven (n * twoTo (-e).toNat) 1) = m := by
    rcases h with ⟨up, rfl⟩ | ⟨down, rfl⟩
    · rw [if_pos up, Nat.one_mul, divHalfEven_mul _ (twoTo_pos _)]
    · have same := divHalfEven_mul (n * twoTo (-e).toNat) Nat.one_pos
      rw [if_neg (by omega)]
      rwa [Nat.mul_one] at same
  have short : m ≠ twoTo 53 := Nat.ne_of_lt high
  simp only [ofRatio, nonzero, if_false, unit, mantissa, short]
  rw [if_neg (by omega)]

theorem ofNumeral_natDigits (negative : Bool) (n : Nat) :
    ofNumeral negative (natDigits n) [] =
      if n = 0 then .finite negative 0 leastExponent else ofRatio negative n 1 := by
  simp [ofNumeral, ofDecimal, digitsValue_natDigits, tenTo_zero]

/-! ## Whole numbers -/

theorem standsFor_of_toInt? {negative : Bool} {m : Nat} {e n : Int} (h : toInt? (.finite negative m e) = some n) :
    ∃ k : Nat, StandsFor m e k ∧ n = if negative then -(k : Int) else k := by
  simp only [toInt?] at h
  split at h
  · next whole =>
    rw [← Option.some.inj h]
    by_cases up : 0 ≤ e
    · exact ⟨_, .inl ⟨up, rfl⟩, by rw [nearestInt, if_pos up]⟩
    · obtain ⟨k, hk⟩ := Nat.dvd_of_mod_eq_zero (whole.resolve_left up)
      rw [Nat.mul_comm] at hk
      refine ⟨k, .inr ⟨by omega, hk⟩, ?_⟩
      rw [nearestInt, if_neg up, hk, divHalfEven_mul _ (twoTo_pos _)]
  · cases h

/-- A whole number other than zero has all its bits. -/
theorem low_of_standsFor {m n : Nat} {e : Int} (h : StandsFor m e n) (nonzero : m ≠ 0) (high : m < twoTo 53)
    (full : twoTo 52 ≤ m ∨ e = leastExponent) : twoTo 52 ≤ m := by
  refine full.resolve_right fun least => ?_
  rcases h with ⟨up, _⟩ | ⟨_, whole⟩
  · rw [least] at up
    exact absurd up (by decide)
  · have some : 0 < n := Nat.pos_of_ne_zero fun none => nonzero (by rw [whole, none, Nat.zero_mul])
    have large : twoTo 53 ≤ twoTo (-e).toNat := Nat.pow_le_pow_right (by decide) (by rw [least]; decide)
    rw [whole] at high
    exact absurd high (Nat.not_lt_of_ge (Nat.le_trans large (Nat.le_mul_of_pos_left _ some)))

/-- The numeral of a whole number reads as the number. -/
theorem value_wholeNumeral {x : Binary64} (h : x.IsWhole) : (wholeNumeral x.nearest).value = x.plain := by
  obtain ⟨kept, whole⟩ := h
  obtain ⟨n, hn⟩ := Option.isSome_iff_exists.1 whole
  cases x with
  | infinite negative => cases hn
  | undefined => cases hn
  | finite negative m e =>
    obtain ⟨high, least, greatest, full⟩ := kept
    have value : nearestInt negative m e = n := by
      simp only [toInt?] at hn
      split at hn
      · exact Option.some.inj hn
      · cases hn
    obtain ⟨k, stands, sign⟩ := standsFor_of_toInt? hn
    have size : n.natAbs = k := by
      rw [sign]
      split <;> omega
    rw [Dsl.Numeral.value, wholeNumeral, nearest, value, plain, Option.getD_none, ofNumeral_natDigits, size]
    by_cases zero : m = 0
    · have none : k = 0 := by
        rcases stands with ⟨_, rfl⟩ | ⟨_, product⟩
        · rw [zero, Nat.zero_mul]
        · rw [zero] at product
          exact (Nat.mul_eq_zero.1 product.symm).resolve_right (Nat.ne_of_gt (twoTo_pos _))
      have unsigned : n = 0 := by omega
      rw [if_pos none, if_pos zero, unsigned]
      rfl
    · have low := low_of_standsFor stands zero high full
      obtain ⟨nonzero, _⟩ := log2_of_standsFor low high stands
      have signed : decide (n < 0) = negative := by
        rw [sign]
        cases negative with
        | false => simp
        | true => simp; omega
      rw [if_neg nonzero, if_neg zero, signed, ofRatio_one negative low high least greatest stands]

end Binary64

end Blueprint
