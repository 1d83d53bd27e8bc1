/-
  Blueprint.Text.Utf8 — reading bytes as text.

  A well-formed sequence of one to four bytes is a character. Where none begins, the longest beginning
  of one that is there, or else a single byte, stands for one character that cannot be read, and is
  shown as the replacement character.

  Proved: ASCII bytes are the characters with their numbers (`decodeBytes_ascii`).
-/

namespace Blueprint.Text

/-- What may follow the first byte of a longer sequence: the bounds of its second byte, how many bytes
follow that one, and the bits of the first byte that count. -/
def sequenceOf? (b : Nat) : Option (Nat × Nat × Nat × Nat) :=
  if 0xC2 ≤ b ∧ b ≤ 0xDF then some (0x80, 0xBF, 0, b - 0xC0)
  else if b = 0xE0 then some (0xA0, 0xBF, 1, 0)
  else if b = 0xED then some (0x80, 0x9F, 1, 0xD)
  else if 0xE1 ≤ b ∧ b ≤ 0xEF then some (0x80, 0xBF, 1, b - 0xE0)
  else if b = 0xF0 then some (0x90, 0xBF, 2, 0)
  else if 0xF1 ≤ b ∧ b ≤ 0xF3 then some (0x80, 0xBF, 2, b - 0xF0)
  else if b = 0xF4 then some (0x80, 0x8F, 2, 4)
  else none

/-- Where the reader is inside a sequence: the bounds of the next byte, how many follow it, and the
bits so far. -/
structure Pending where
  low : Nat
  high : Nat
  left : Nat
  bits : Nat

/-- A byte that begins something. -/
def beginByte (b : Nat) : List (Option Char) × Option Pending :=
  if b < 0x80 then ([some (Char.ofNat b)], none)
  else match sequenceOf? b with
    | some (low, high, left, bits) => ([], some ⟨low, high, left, bits⟩)
    | none => ([none], none)

/-- Takes in one byte, and gives what it completes. -/
def takeByte (pending : Option Pending) (b : Nat) : List (Option Char) × Option Pending :=
  match pending with
  | none => beginByte b
  | some p =>
    if p.low ≤ b ∧ b ≤ p.high then
      let bits := p.bits * 64 + (b - 0x80)
      match p.left with
      | 0 => ([some (Char.ofNat bits)], none)
      | left + 1 => ([], some ⟨0x80, 0xBF, left, bits⟩)
    else
      let (out, next) := beginByte b
      (none :: out, next)

def decodeFrom (pending : Option Pending) : List Nat → List (Option Char)
  | [] => if pending.isSome then [none] else []
  | b :: bs =>
    let (out, next) := takeByte pending b
    out ++ decodeFrom next bs

/-- The characters of a byte sequence; none stands for one that cannot be read. -/
def decodeBytes (bytes : List Nat) : List (Option Char) := decodeFrom none bytes

/-- The characters of a byte sequence as they are shown. -/
def shownBytes (bytes : List Nat) : List Char := (decodeBytes bytes).map (·.getD '\uFFFD')

/-- How many bytes a code point takes. -/
def byteCount (n : Nat) : Nat :=
  if n < 0x80 then 1 else if n < 0x800 then 2 else if n < 0x10000 then 3 else 4

theorem decodeBytes_ascii {bytes : List Nat} (h : ∀ b ∈ bytes, b < 0x80) :
    decodeBytes bytes = bytes.map fun b => some (Char.ofNat b) := by
  unfold decodeBytes
  induction bytes with
  | nil => rfl
  | cons b bs ih =>
    have hb : b < 0x80 := h b (by simp)
    simp [decodeFrom, takeByte, beginByte, hb, ih fun c hc => h c (List.mem_cons_of_mem _ hc)]

end Blueprint.Text
