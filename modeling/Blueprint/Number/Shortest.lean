/-
  Blueprint.Number.Shortest — the shortest decimal of a floating-point number.

  For one digit, then two, up to seventeen, the two decimals with that many digits on either side of a
  positive number are tried; the first count at which one of them reads back as the number decides, of
  two that do the nearer one, and of two equally near the even one.
-/

import Blueprint.Number.Numeral

namespace Blueprint.Binary64

/-- `digits · 10 ^ scale`. -/
structure Decimal where
  digits : Nat
  scale : Int
  deriving DecidableEq, Repr

/-- A positive number as a ratio. -/
def ratio (m : Nat) (e : Int) : Nat × Nat :=
  if 0 ≤ e then (m * twoTo e.toNat, 1) else (m, twoTo (-e).toNat)

/-- `10 ^ k ≤ num / den`. -/
def reachesPower (num den : Nat) (k : Int) : Bool :=
  if 0 ≤ k then den * tenTo k.toNat ≤ num else den ≤ num * tenTo (-k).toNat

/-- The power of ten of a positive ratio's leading digit: within one of what its logarithm says. -/
def leadingPower (num den : Nat) : Int :=
  let guess := (((num.log2 : Int) - den.log2) * 30103).fdiv 100000
  if reachesPower num den (guess + 1) then guess + 1
  else if reachesPower num den guess then guess
  else guess - 1

/-- The shortest decimal with exactly `count` digits that reads back as `± m · 2 ^ e`, if any. -/
def decimalOf? (m : Nat) (e : Int) (count : Nat) : Option Decimal :=
  let (num, den) := ratio m e
  let scale := leadingPower num den - count + 1
  let (num, den) := if 0 ≤ scale then (num, den * tenTo scale.toNat) else (num * tenTo (-scale).toNat, den)
  let below := num / den
  let readsBack (d : Nat) : Bool := ofDecimal false d scale == .finite false m e
  match readsBack below, readsBack (below + 1) with
  | true, true => some ⟨divHalfEven num den, scale⟩
  | true, false => some ⟨below, scale⟩
  | false, true => some ⟨below + 1, scale⟩
  | false, false => none

/-- Drops the zeros at the end of the digits. -/
def Decimal.strip : Nat → Decimal → Decimal
  | 0, d => d
  | fuel + 1, d => if d.digits % 10 = 0 ∧ d.digits ≠ 0 then strip fuel ⟨d.digits / 10, d.scale + 1⟩ else d

/-- The shortest decimal that reads back as the positive number `m · 2 ^ e`. -/
def shortest (m : Nat) (e : Int) : Decimal :=
  (((List.range 17).findSome? fun k => decimalOf? m e (k + 1)).getD ⟨m, 0⟩).strip 20

/-- The decimal in figures: positional from 10 ^ -4 up to 10 ^ 16, else with an exponent of at least
two digits; a positional integer keeps one zero behind the point. -/
def Decimal.figures (d : Decimal) : List Char :=
  let ds := natDigits d.digits
  let power : Int := d.scale + ds.length - 1
  if power < -4 ∨ 16 ≤ power then
    let mantissa := match ds with
      | c :: (f :: fs) => c :: '.' :: f :: fs
      | _ => ds
    let width := natDigits power.natAbs
    mantissa ++ 'e' :: (if power < 0 then '-' else '+') :: (if width.length < 2 then '0' :: width else width)
  else if power < 0 then "0.".toList ++ List.replicate (-power - 1).toNat '0' ++ ds
  else
    let whole := power.toNat + 1
    if ds.length ≤ whole then ds ++ List.replicate (whole - ds.length) '0' ++ ".0".toList
    else ds.take whole ++ '.' :: ds.drop whole

/-- The sign and figures of a number; what is not finite goes by `inf` and `nan`. -/
def figures : Binary64 → List Char
  | .undefined => "nan".toList
  | .infinite negative => (if negative then "-inf" else "inf").toList
  | .finite negative m e =>
    let magnitude := if m = 0 then "0.0".toList else (shortest m e).figures
    if negative then '-' :: magnitude else magnitude

def text (x : Binary64) : String := String.ofList x.figures

end Blueprint.Binary64
