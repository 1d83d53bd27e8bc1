/-
  Blueprint.Number.Power — powers of two and of ten.

  Proved: a power of two grows by one factor a step (`twoTo_succ`), hence is never zero (`twoTo_pos`).
-/

namespace Blueprint

def twoTo (k : Nat) : Nat := Nat.pow 2 k

def tenTo (k : Nat) : Nat := Nat.pow 10 k

theorem tenTo_zero : tenTo 0 = 1 := rfl

theorem twoTo_succ (k : Nat) : twoTo (k + 1) = twoTo k * 2 := rfl

theorem twoTo_pos (k : Nat) : 0 < twoTo k := by
  induction k with
  | zero => decide
  | succ k ih => rw [twoTo_succ]; omega

end Blueprint
