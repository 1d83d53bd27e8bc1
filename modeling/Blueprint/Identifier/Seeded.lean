/-
  Blueprint.Identifier.Seeded — ids from a random seed (in the place of `generate_id`, for the command
  line).

  An id has 122 free bits, written as 32 hexadecimal digits in five groups of which the third begins
  with 4 and the fourth with 8, 9, a or b. The ids of one seed step through all these numbers by an odd
  stride, so that none comes twice and even their first digits differ.

  Proved: no two of them are at the same number (`seededNumber_injective`).
-/

import Blueprint.Model.Workspace
import Blueprint.Number.Numeral

namespace Blueprint

def stride : Nat := 3285799246158183208450316042963517305

def seededNumber (seed k : Nat) : Nat := (seed + k * stride) % twoTo 122

def seededText (n : Nat) : String :=
  let digits (width shift : Nat) : String := String.ofList (hexDigits width (n / twoTo shift))
  digits 8 90 ++ "-" ++ digits 4 74 ++ "-4" ++ digits 3 62 ++ "-" ++
    String.ofList (hexDigits 4 (0x8000 + n / twoTo 48 % twoTo 14)) ++ "-" ++ digits 12 0

def IdSource.seeded (seed : Nat) : IdSource := fun k => seededText (seededNumber seed k)

/-! ## Small facts -/

theorem stride_coprime : Nat.gcd (twoTo 122) stride = 1 := by decide +kernel

theorem seededNumber_injective {seed j k : Nat} (hj : j < twoTo 122) (hk : k < twoTo 122)
    (h : seededNumber seed j = seededNumber seed k) : j = k := by
  have aux : ∀ {a b : Nat}, b < twoTo 122 → a ≤ b → seededNumber seed a = seededNumber seed b → a = b := by
    intro a b hb hab h
    have hd : twoTo 122 ∣ (b - a) * stride := by
      have := Nat.sub_mod_eq_zero_of_mod_eq h.symm
      have e : seed + b * stride - (seed + a * stride) = (b - a) * stride := by
        rw [Nat.sub_mul]; omega
      rw [e] at this
      exact Nat.dvd_of_mod_eq_zero this
    have hz : twoTo 122 ∣ b - a := Nat.Coprime.dvd_of_dvd_mul_right stride_coprime hd
    have : b - a = 0 := Nat.eq_zero_of_dvd_of_lt hz (by omega)
    omega
  rcases Nat.le_total j k with hjk | hkj
  · exact aux hk hjk h
  · exact (aux hj hkj h.symm).symm

end Blueprint
