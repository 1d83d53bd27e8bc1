/-
  Blueprint.Service.Host — what an address may call a host.

  A host that looks like four numbers must be four bytes with dots between them. A host in brackets
  must be eight groups of hexadecimal digits with colons between them, where two colons once stand for
  groups that are zero, four bytes may stand for the last two groups, and the name of a zone may follow
  behind a percent sign. Any other host may be any text in ASCII. Beyond ASCII a host is made of labels
  with dots between them.

  Proved: two colons and what is around them make up the text (`eq_of_splitGap?`).
-/

import Blueprint.Number.Numeral
import Blueprint.Service.Label
import Blueprint.Text.Blank
import Blueprint.Text.Digit
import Blueprint.Text.Word

namespace Blueprint.Host

open Text

/-! ## Numbers -/

/-- A number from 0 to 255 without zeros in front. -/
def isByte (cs : List Char) : Bool :=
  cs.all isAsciiDigit && (cs == ['0'] || !(cs.head? == some '0')) &&
    0 < cs.length && cs.length ≤ 3 && digitsValue cs ≤ 255

def isFourBytes (cs : List Char) : Bool :=
  let bytes := fields (· == '.') cs
  bytes.length == 4 && bytes.all isByte

/-- There are four numbers with dots between them. -/
def looksNumbered (cs : List Char) : Bool :=
  let numbers := fields (· == '.') cs
  numbers.length == 4 && numbers.all fun n => 0 < n.length && n.all isAsciiDigit

/-! ## Groups -/

def isGroup (cs : List Char) : Bool :=
  0 < cs.length && cs.length ≤ 4 && cs.all fun c => (hexValue? c).isSome

/-- The number of groups with colons between them. -/
def groups? (cs : List Char) : Option Nat :=
  let parts := fields (· == ':') cs
  if cs.isEmpty then some 0 else if parts.all isGroup then some parts.length else none

/-- The number of groups, of which the last two may be written as four bytes. -/
def lastGroups? (cs : List Char) : Option Nat :=
  let parts := fields (· == ':') cs
  if parts.dropLast.all isGroup && parts.getLast?.any isFourBytes then some (parts.length + 1)
  else groups? cs

/-- What is before and behind the first two colons that stand together. -/
def splitGap? : List Char → Option (List Char × List Char)
  | ':' :: ':' :: cs => some ([], cs)
  | c :: cs => (splitGap? cs).map fun parts => (c :: parts.1, parts.2)
  | [] => none

def isEightGroups (cs : List Char) : Bool :=
  match splitGap? cs with
  | none => lastGroups? cs == some 8
  | some (before, behind) =>
    match groups? before, lastGroups? behind with
    | some m, some n => m + n < 8
    | _, _ => false

/-- Eight groups, and the name of a zone if there is a percent sign. -/
def isZoned (cs : List Char) : Bool :=
  let zone := cs.dropWhile (· != '%')
  isEightGroups (cs.takeWhile (· != '%')) && (zone.isEmpty || (1 < zone.length && !((zone.drop 1).contains '%')))

def isBracketed (cs : List Char) : Bool := cs.head? == some '[' && cs.getLast? == some ']'

/-! ## Labels -/

/-- The dots between labels. -/
def isDot (c : Char) : Bool := ['.', '。', '．', '｡'].contains c

/-- Labels, perhaps with a dot behind the last. -/
def isLabels (cs : List Char) : Bool :=
  let labels := fields isDot cs
  (if labels.getLast? = some [] then labels.dropLast else labels).all isLabel

/-! ## Hosts -/

/-- The text may stand where an address has its host. -/
def isHost (cs : List Char) : Bool :=
  if looksNumbered cs then isFourBytes cs
  else if isBracketed cs then isZoned (cs.drop 1).dropLast
  else cs.all (·.toNat < 128) || isLabels cs

/-! ## Small facts -/

theorem eq_of_splitGap? {cs before behind : List Char} (h : splitGap? cs = some (before, behind)) :
    cs = before ++ ':' :: ':' :: behind := by
  fun_induction splitGap? cs generalizing before with
  | case1 cs =>
    obtain ⟨rfl, rfl⟩ := by simpa using h
    rfl
  | case2 c cs _ ih =>
    obtain ⟨parts, found, eq⟩ := Option.map_eq_some_iff.1 h
    obtain ⟨rfl, rfl⟩ := by simpa using eq
    rw [ih found]; rfl
  | case3 => exact absurd h (by simp)

end Blueprint.Host
