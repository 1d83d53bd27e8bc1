/-
  Blueprint.Number.Binary64 — floating-point numbers as exact values.

  A finite number is a sign, a mantissa m and an exponent e, and stands for ± m · 2^e. It is kept in
  one form: m has at most 53 bits and, unless e is the least exponent -1074, exactly 53. Every
  operation computes the exact result, a ratio of two naturals, and rounds it once, to the nearest
  number and to an even mantissa if two are equally near; past the largest finite number it gives
  infinity. Zero keeps its sign, and there is one undefined value.

  Proved: rounding a quotient is off by at most half a unit (`divHalfEven_bound`) and exact quotients
  stay (`divHalfEven_mul`).
-/

import Blueprint.Number.Power

namespace Blueprint

/-- A binary64 number; two are equal only if they are the same, sign of zero included. -/
inductive Binary64 where
  | finite (negative : Bool) (mantissa : Nat) (exponent : Int)
  | infinite (negative : Bool)
  | undefined
  deriving DecidableEq, Repr

/-- The quotient rounded to the nearest natural, halves to the even one. -/
def divHalfEven (num den : Nat) : Nat :=
  let q := num / den
  let r := num % den
  if 2 * r < den then q
  else if den < 2 * r then q + 1
  else if q % 2 = 0 then q else q + 1

theorem divHalfEven_mul (n : Nat) {den : Nat} (h : 0 < den) : divHalfEven (n * den) den = n := by
  simp [divHalfEven, Nat.mul_div_cancel _ h, h]

theorem divHalfEven_cases (num den : Nat) :
    (divHalfEven num den = num / den ∧ 2 * (num % den) ≤ den) ∨
      (divHalfEven num den = num / den + 1 ∧ den ≤ 2 * (num % den)) := by
  simp only [divHalfEven]
  split
  · exact .inl ⟨rfl, by omega⟩
  split
  · exact .inr ⟨rfl, by omega⟩
  split
  · exact .inl ⟨rfl, by omega⟩
  · exact .inr ⟨rfl, by omega⟩

/-- Twice the quotient is at most one divisor away from twice the number. -/
theorem divHalfEven_bound (num : Nat) {den : Nat} (h : 0 < den) :
    2 * num ≤ 2 * (divHalfEven num den * den) + den ∧ 2 * (divHalfEven num den * den) ≤ 2 * num + den := by
  have cases := divHalfEven_cases num den
  have whole := Nat.div_add_mod num den
  have small := Nat.mod_lt num h
  rw [Nat.mul_comm] at whole
  generalize divHalfEven num den = d at *
  generalize num / den = q at *
  generalize num % den = r at *
  have next : (q + 1) * den = q * den + den := by rw [Nat.add_mul, Nat.one_mul]
  rcases cases with ⟨rfl, _⟩ | ⟨rfl, _⟩ <;> omega

namespace Binary64

def leastExponent : Int := -1074

def greatestExponent : Int := 971

def zero : Binary64 := .finite false 0 leastExponent

/-- The exponent of the mantissa's last bit in the nearest number to a positive ratio. -/
def unitExponent (num den : Nat) : Int :=
  let l : Int := (num.log2 : Int) - den.log2
  let reaches : Bool := if 0 ≤ l then den * twoTo l.toNat ≤ num else den ≤ num * twoTo (-l).toNat
  max leastExponent (if reaches then l - 52 else l - 53)

/-- The number nearest to `num / den`, with the given sign. -/
def ofRatio (negative : Bool) (num den : Nat) : Binary64 :=
  if num = 0 then .finite negative 0 leastExponent
  else
    let e := unitExponent num den
    let m := if 0 ≤ e then divHalfEven num (den * twoTo e.toNat) else divHalfEven (num * twoTo (-e).toNat) den
    let (m, e) := if m = twoTo 53 then (twoTo 52, e + 1) else (m, e)
    if greatestExponent < e then .infinite negative else .finite negative m e

/-- The number nearest to `± m · 2 ^ e`. -/
def ofScaled (negative : Bool) (m : Nat) (e : Int) : Binary64 :=
  if 0 ≤ e then ofRatio negative (m * twoTo e.toNat) 1 else ofRatio negative m (twoTo (-e).toNat)

def ofNat (n : Nat) : Binary64 := ofRatio false n 1

def ofInt (n : Int) : Binary64 := ofRatio (n < 0) n.natAbs 1

/-- The number nearest to `± digits · 10 ^ scale`. Scales far outside the range need no arithmetic. -/
def ofDecimal (negative : Bool) (digits : Nat) (scale : Int) : Binary64 :=
  if digits = 0 then .finite negative 0 leastExponent
  else if 400 < scale then .infinite negative
  else if 0 ≤ scale then ofRatio negative (digits * tenTo scale.toNat) 1
  else if (digits.log2 : Int) + 1 + 3 * scale < -1080 then .finite negative 0 leastExponent
  else ofRatio negative digits (tenTo (-scale).toNat)

instance (n : Nat) : OfNat Binary64 n := ⟨ofNat n⟩

def isFinite : Binary64 → Bool
  | .finite .. => true
  | _ => false

/-- The mantissa with its sign, over a smaller exponent. -/
def numeratorAt (negative : Bool) (m : Nat) (e least : Int) : Int :=
  let n : Int := (m * twoTo (e - least).toNat : Nat)
  if negative then -n else n

def add : Binary64 → Binary64 → Binary64
  | .undefined, _ | _, .undefined => .undefined
  | .infinite s, .infinite t => if s = t then .infinite s else .undefined
  | .infinite s, .finite .. => .infinite s
  | .finite .., .infinite t => .infinite t
  | .finite s m e, .finite t n f =>
    let least := min e f
    let sum := numeratorAt s m e least + numeratorAt t n f least
    if sum = 0 then .finite (s && t) 0 leastExponent else ofScaled (sum < 0) sum.natAbs least

def mul : Binary64 → Binary64 → Binary64
  | .undefined, _ | _, .undefined => .undefined
  | .infinite s, .infinite t => .infinite (s != t)
  | .infinite s, .finite t n _ | .finite t n _, .infinite s => if n = 0 then .undefined else .infinite (s != t)
  | .finite s m e, .finite t n f => ofScaled (s != t) (m * n) (e + f)

/-- The nearest integer, halves to the even one. -/
def nearestInt (negative : Bool) (m : Nat) (e : Int) : Int :=
  let n : Nat := if 0 ≤ e then m * twoTo e.toNat else divHalfEven m (twoTo (-e).toNat)
  if negative then -n else n

/-- The integer that a finite number is, if it is one. -/
def toInt? : Binary64 → Option Int
  | .finite s m e =>
    if 0 ≤ e ∨ m % twoTo (-e).toNat = 0 then some (nearestInt s m e) else none
  | _ => none

end Binary64

end Blueprint
