/-
  Blueprint.Number.Quotient — quotients rounded down, and what they leave.

  The remainder of two numbers has the sign of the divisor and is exact for integers. For
  floating-point numbers the quotient is what is left of the dividend without the remainder, divided and
  taken to the nearest whole number; each step is rounded, and a zero keeps the sign that it would have.

  Proved: an integer is its quotient by another one times that, and the remainder
  (`quotient_mul_add_remainder`).
-/

import Blueprint.Number.Scalar

namespace Blueprint

namespace Binary64

def isNegative : Binary64 → Bool
  | .finite s .. => s
  | .infinite s => s
  | .undefined => false

def isZero : Binary64 → Bool
  | .finite _ m _ => m == 0
  | _ => false

def zeroOf (negative : Bool) : Binary64 := .finite negative 0 leastExponent

def negate : Binary64 → Binary64
  | .finite s m e => .finite (!s) m e
  | .infinite s => .infinite (!s)
  | .undefined => .undefined

def sub (x y : Binary64) : Binary64 := x.add y.negate

/-- Two mantissas over the lesser one of their exponents. -/
def aligned (m : Nat) (e : Int) (n : Nat) (f : Int) : Nat × Nat :=
  let least := min e f
  (m * twoTo (e - least).toNat, n * twoTo (f - least).toNat)

def div : Binary64 → Binary64 → Binary64
  | .undefined, _ | _, .undefined => .undefined
  | .infinite _, .infinite _ => .undefined
  | .infinite s, .finite t .. => .infinite (s != t)
  | .finite s .., .infinite t => zeroOf (s != t)
  | .finite s m e, .finite t n f =>
    if n = 0 then (if m = 0 then .undefined else .infinite (s != t))
    else
      let (a, b) := aligned m e n f
      ofRatio (s != t) a b

/-- The remainder with the sign of the dividend, which is exact. -/
def remainderAsDividend : Binary64 → Binary64 → Binary64
  | .undefined, _ | _, .undefined | .infinite _, _ => .undefined
  | x, .infinite _ => x
  | .finite s m e, .finite _ n f =>
    if n = 0 then .undefined
    else
      let (a, b) := aligned m e n f
      ofScaled s (a % b) (min e f)

/-- The greatest whole number that is not above it. -/
def floor : Binary64 → Binary64
  | .finite s m e =>
    if 0 ≤ e then .finite s m e
    else
      let unit := twoTo (-e).toNat
      if s && m % unit != 0 then ofInt (-(m / unit + 1 : Nat)) else ofRatio s (m / unit) 1
  | x => x

/-- The number is greater than one half. -/
def exceedsHalf (x : Binary64) : Bool :=
  let above := x.sub (ofRatio false 1 2)
  above != .undefined && !above.isZero && !above.isNegative

/-- What is left by the quotient rounded down. -/
def remainder (x y : Binary64) : Binary64 :=
  let r := remainderAsDividend x y
  if r.isZero then zeroOf y.isNegative else if y.isNegative != r.isNegative then r.add y else r

/-- The quotient rounded down. -/
def quotient (x y : Binary64) : Binary64 :=
  let r := remainderAsDividend x y
  let q := (x.sub r).div y
  let q := if !r.isZero && y.isNegative != r.isNegative then q.sub 1 else q
  if q.isZero then zeroOf (x.isNegative != y.isNegative)
  else if (q.sub q.floor).exceedsHalf then q.floor.add 1 else q.floor

end Binary64

namespace Scalar

def isZero : Scalar → Bool
  | .int n => n == 0
  | .real x => x.isZero

def remainder : Scalar → Scalar → Scalar
  | .int a, .int b => .int (Int.fmod a b)
  | a, b => .real (a.toReal.remainder b.toReal)

def quotient : Scalar → Scalar → Scalar
  | .int a, .int b => .int (Int.fdiv a b)
  | a, b => .real (a.toReal.quotient b.toReal)

/-! ## Small facts -/

theorem quotient_mul_add_remainder (a b : Int) :
    quotient (.int a) (.int b) * .int b + remainder (.int a) (.int b) = .int a := by
  show Scalar.int (Int.fdiv a b * b + Int.fmod a b) = .int a
  rw [Int.mul_comm, Int.mul_fdiv_add_fmod]

end Scalar

end Blueprint
