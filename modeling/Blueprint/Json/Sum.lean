/-
  Blueprint.Json.Sum — sums of values, and values that are taken several times.

  Numbers are added and multiplied, truth values standing for zero and one. Texts are joined, and so
  are arrays; a whole number of times either is written as often one behind the other, and a number
  below one leaves nothing of it. Other values have no sum.

  Proved: for numbers these are the sum and the product of the numbers, unless one is too large
  (`eq_of_sum`, `eq_of_times`).
-/

import Blueprint.Fault

namespace Blueprint.Json

/-- The number that a value stands for. -/
def number? : Json → Option Scalar
  | .num n => some n
  | .bool b => some (if b then 1 else 0)
  | _ => none

/-- A number, or what is wrong if there is none although there were two. -/
def orTooLarge (n : Option Scalar) : Except Accident Json :=
  n.elim (.error .tooLargeNumber) fun n => .ok (.num n)

def sum : Json → Json → Except Accident Json
  | .str s, .str t => .ok (.str (s ++ t))
  | .arr xs, .arr ys => .ok (.arr (xs ++ ys))
  | a, b =>
    match a.number?, b.number? with
    | some m, some n => orTooLarge (m.sum? n)
    | _, _ => .error .wrongArguments

/-- No count is greater. -/
def countBound : Int := 9223372036854775807

/-- Nothing that is written several times gets longer. -/
def lengthBound : Int := 67108864

/-- The items of a list as often as it is said, if there is room for them. -/
def repeated {α : Type} (count : Int) (xs : List α) : Except Accident (List α) :=
  if countBound < count then .error .tooLargeNumber
  else if lengthBound < count * xs.length then .error .tooLong
  else .ok (List.replicate count.toNat xs).flatten

def times (count : Scalar) (j : Json) : Except Accident Json :=
  match count, j with
  | .int n, .str s => do return .str (String.ofList (← repeated n s.toList))
  | .int n, .arr items => do return .arr (← repeated n items)
  | count, j => j.number?.elim (.error .wrongArguments) fun n => orTooLarge (count.product? n)

/-! ## Small facts -/

theorem eq_of_orTooLarge {n : Option Scalar} {j : Json} (h : orTooLarge n = .ok j) : ∃ m, n = some m ∧ j = .num m := by
  cases n with
  | none => cases h
  | some m => exact ⟨m, rfl, (Except.ok.inj h).symm⟩

theorem eq_of_sum {a b : Scalar} {j : Json} (h : sum (.num a) (.num b) = .ok j) : j = .num (a + b) := by
  obtain ⟨c, found, rfl⟩ := eq_of_orTooLarge h
  rw [Scalar.eq_of_sum? found]

theorem eq_of_times {a b : Scalar} {j : Json} (h : times a (.num b) = .ok j) : j = .num (a * b) := by
  have h : orTooLarge (a.product? b) = .ok j := by cases a <;> exact h
  obtain ⟨c, found, rfl⟩ := eq_of_orTooLarge h
  rw [Scalar.eq_of_product? found]

end Blueprint.Json
