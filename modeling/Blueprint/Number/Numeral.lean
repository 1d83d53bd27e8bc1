/-
  Blueprint.Number.Numeral — decimal numerals.

  `natDigits` and `intDigits` write an integer; a numeral with a fraction is read as its digits, taken
  as one natural, and a power of ten.

  Proved: a written natural reads as itself (`digitsValue_natDigits`), and two naturals with the same
  numeral are equal (`natDigits_injective`).
-/

import Blueprint.Text.Digit
import Blueprint.Number.Binary64

namespace Blueprint

open Text

def digitChar (d : Nat) : Char := Char.ofNat (48 + d)

def natDigits (n : Nat) : List Char :=
  if n < 10 then [digitChar n] else natDigits (n / 10) ++ [digitChar (n % 10)]
termination_by n
decreasing_by omega

def intDigits (n : Int) : List Char :=
  if n < 0 then '-' :: natDigits n.natAbs else natDigits n.natAbs

def natText (n : Nat) : String := String.ofList (natDigits n)

def intText (n : Int) : String := String.ofList (intDigits n)

/-- The last `width` digits of a lower-case hexadecimal numeral. -/
def hexDigits : Nat → Nat → List Char
  | 0, _ => []
  | width + 1, n =>
    let d := n % 16
    hexDigits width (n / 16) ++ [if d < 10 then Char.ofNat (48 + d) else Char.ofNat (87 + d)]

/-- The value of a hexadecimal digit, in either case. -/
def hexValue? (c : Char) : Option Nat :=
  let n := c.toNat
  if 48 ≤ n ∧ n ≤ 57 then some (n - 48)
  else if 97 ≤ n ∧ n ≤ 102 then some (n - 87)
  else if 65 ≤ n ∧ n ≤ 70 then some (n - 55)
  else none

/-- The number that a numeral stands for: sign, digits before the point, digits behind it. -/
def Binary64.ofNumeral (negative : Bool) (whole fraction : List Char) : Binary64 :=
  .ofDecimal negative (digitsValue (whole ++ fraction)) (-fraction.length)

/-! ## Small facts -/

theorem digitValue_digitChar {d : Nat} (h : d < 10) : digitValue? (digitChar d) = some d := by
  have : d = 0 ∨ d = 1 ∨ d = 2 ∨ d = 3 ∨ d = 4 ∨ d = 5 ∨ d = 6 ∨ d = 7 ∨ d = 8 ∨ d = 9 := by omega
  rcases this with rfl | rfl | rfl | rfl | rfl | rfl | rfl | rfl | rfl | rfl <;> decide

theorem digitsValue_append (cs : List Char) (c : Char) :
    digitsValue (cs ++ [c]) = 10 * digitsValue cs + (digitValue? c).getD 0 := by
  simp [digitsValue]

theorem digitsValue_natDigits (n : Nat) : digitsValue (natDigits n) = n := by
  fun_induction natDigits n with
  | case1 n h => simp [digitsValue, digitValue_digitChar h]
  | case2 n h ih =>
    rw [digitsValue_append, ih, digitValue_digitChar (Nat.mod_lt _ (by decide))]
    simp only [Option.getD_some]
    omega

theorem natDigits_injective {m n : Nat} (h : natDigits m = natDigits n) : m = n := by
  rw [← digitsValue_natDigits m, h, digitsValue_natDigits]

end Blueprint
