/-
  Blueprint.Number.Written — numbers in the text of a field.

  A number has an optional sign, digits with an optional point among, before or behind them, and an
  optional exponent; or it is `inf`, `infinity` or `nan` in any case. Around it may stand blanks; or in
  it low lines, one at a time between other characters; but not both. An integer is an optional sign and
  digits of any script, and may have both.
-/

import Blueprint.Number.Numeral
import Blueprint.Text.Blank
import Blueprint.Text.Word

namespace Blueprint

open Text

/-- The blanks, without the four separators that are control characters. -/
def isSpacing (c : Char) : Bool := isBlank c && !(28 ≤ c.toNat && c.toNat ≤ 31)

def trimSpacing (cs : List Char) : List Char :=
  ((cs.dropWhile isSpacing).reverse.dropWhile isSpacing).reverse

/-- The text without low lines, if none of them stands at an end or next to another. -/
def dropLowLines? (cs : List Char) : Option (List Char) :=
  if (fields (· == '_') cs).any (·.isEmpty) then none else some (cs.filter (· != '_'))

def splitSign : List Char → Bool × List Char
  | '-' :: cs => (true, cs)
  | '+' :: cs => (false, cs)
  | cs => (false, cs)

/-- An exponent behind its letter. -/
def exponent? (cs : List Char) : Option Int :=
  let (negative, ds) := splitSign cs
  if ds.isEmpty || !ds.all isAsciiDigit then none
  else some (if negative then -(digitsValue ds : Int) else digitsValue ds)

/-- No integer is read that has more digits. -/
def digitBound : Nat := 4300

/-- The text writes an integer. -/
def isInteger (cs : List Char) : Bool :=
  (dropLowLines? (splitSign (trim cs)).2).any fun ds => ds.all isDigit && ds.length ≤ digitBound

namespace Binary64

/-- A number without a sign that is written in digits. -/
def ofDigits? (negative : Bool) (cs : List Char) : Option Binary64 :=
  let whole := cs.takeWhile isAsciiDigit
  let (fraction, rest) := match cs.dropWhile isAsciiDigit with
    | '.' :: r => (r.takeWhile isAsciiDigit, r.dropWhile isAsciiDigit)
    | r => ([], r)
  let value (e : Int) : Option Binary64 :=
    some (ofDecimal negative (digitsValue (whole ++ fraction)) (e - fraction.length))
  if whole.isEmpty && fraction.isEmpty then none
  else match rest with
    | [] => value 0
    | c :: r => if c = 'e' ∨ c = 'E' then (exponent? r).bind value else none

def inLowerCase (cs : List Char) : List Char :=
  cs.map fun c => if 'A' ≤ c ∧ c ≤ 'Z' then Char.ofNat (c.toNat + 32) else c

def ofUnbroken? (cs : List Char) : Option Binary64 :=
  let (negative, cs) := splitSign cs
  let word := inLowerCase cs
  if word = "inf".toList ∨ word = "infinity".toList then some (.infinite negative)
  else if word = "nan".toList then some .undefined
  else ofDigits? negative cs

/-- The number that a text writes, if it writes one. -/
def ofText? (s : String) : Option Binary64 :=
  (ofUnbroken? (trimSpacing s.toList)).or ((dropLowLines? s.toList).bind ofUnbroken?)

end Binary64

end Blueprint
