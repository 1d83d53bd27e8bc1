/-
  Blueprint.Number.Scalar — integers and floating-point numbers side by side.

  An integer stays exact until it meets a floating-point number; then it is rounded to one first. An
  integer that is too large for that has no sum and no product with a floating-point number.

  Proved: where there is a sum or a product, it is the one without that bound (`eq_of_sum?`,
  `eq_of_product?`).
-/

import Blueprint.Number.Binary64

namespace Blueprint

inductive Scalar where
  | int (n : Int)
  | real (x : Binary64)
  deriving DecidableEq, Repr

namespace Scalar

def toReal : Scalar → Binary64
  | .int n => .ofInt n
  | .real x => x

instance : Add Scalar where
  add
    | .int a, .int b => .int (a + b)
    | a, b => .real (a.toReal.add b.toReal)

instance : Mul Scalar where
  mul
    | .int a, .int b => .int (a * b)
    | a, b => .real (a.toReal.mul b.toReal)

instance (n : Nat) : OfNat Scalar n := ⟨.int n⟩

/-- The number can stand beside a floating-point number. -/
def hasReal : Scalar → Bool
  | .int n => (Binary64.ofInt n).isFinite
  | .real _ => true

def areBothInts : Scalar → Scalar → Bool
  | .int _, .int _ => true
  | _, _ => false

/-- The two numbers can stand in one operation. -/
def areJoinable (a b : Scalar) : Bool := areBothInts a b || (a.hasReal && b.hasReal)

def sum? (a b : Scalar) : Option Scalar := if areJoinable a b then some (a + b) else none

def product? (a b : Scalar) : Option Scalar := if areJoinable a b then some (a * b) else none

/-! ## Small facts -/

theorem eq_of_sum? {a b c : Scalar} (h : a.sum? b = some c) : c = a + b := by
  unfold sum? at h
  split at h
  · exact (Option.some.inj h).symm
  · cases h

theorem eq_of_product? {a b c : Scalar} (h : a.product? b = some c) : c = a * b := by
  unfold product? at h
  split at h
  · exact (Option.some.inj h).symm
  · cases h

end Scalar

end Blueprint
