/-
  Blueprint.Proofs.Dsl.Pieces — names, numerals and the gaps between them.

  The pieces of a line stand apart by gaps: one or more blanks of any kind, but no line boundary. No
  character of a piece is a blank, and none of them opens a quote, ends a statement or lets a line go on; so a
  reader finds each piece whole, whatever the gaps are.

  Proved: what the characters of pieces are not (`pieceChar_facts`); a reader takes a gap (`dropBlanks?_gap`), a
  name (`name?_append`) and a numeral (`numeral?_append`) whole, up to what follows.
-/

import Blueprint.Dsl.Clause
import Blueprint.Proofs.Dsl.Tokens
import Blueprint.Proofs.Identifier.Word

namespace Blueprint

namespace Text

/-- The code points of the blanks. -/
def blanks : List Nat :=
  [9, 10, 11, 12, 13, 28, 29, 30, 31, 32, 0x85, 0xA0, 0x1680, 0x2000, 0x2001, 0x2002, 0x2003, 0x2004, 0x2005, 0x2006,
    0x2007, 0x2008, 0x2009, 0x200A, 0x2028, 0x2029, 0x202F, 0x205F, 0x3000]

theorem mem_blanks {c : Char} (h : isBlank c = true) : c.toNat ∈ blanks := by
  simp only [isBlank, Bool.or_eq_true, Bool.and_eq_true, decide_eq_true_eq, beq_iff_eq] at h
  simp only [blanks, List.mem_cons, List.not_mem_nil, or_false]
  omega

/-- A test that no blank passes, tried on each of them. -/
theorem not_isBlank_of_forall {p : Char → Bool} (tried : ∀ n ∈ blanks, p (Char.ofNat n) = false) {c : Char}
    (h : p c = true) : isBlank c = false := by
  rw [Bool.eq_false_iff]
  intro blank
  have none := tried c.toNat (mem_blanks blank)
  rw [Char.ofNat_toNat, h] at none
  cases none

/-- A run of characters is taken up to the first that is none of them. -/
theorem takeWhile_run {p : Char → Bool} {cs rest : List Char} (run : ∀ c ∈ cs, p c = true)
    (ends : ∀ c ∈ rest.head?, p c = false) : (cs ++ rest).takeWhile p = cs := by
  rw [List.takeWhile_append_of_pos run]
  cases rest with
  | nil => rw [List.takeWhile_nil, List.append_nil]
  | cons c cs => rw [List.takeWhile_cons_of_neg (by simp [ends c rfl]), List.append_nil]

theorem dropWhile_run {p : Char → Bool} {cs rest : List Char} (run : ∀ c ∈ cs, p c = true)
    (ends : ∀ c ∈ rest.head?, p c = false) : (cs ++ rest).dropWhile p = rest := by
  rw [List.dropWhile_append_of_pos run]
  cases rest with
  | nil => rfl
  | cons c cs => rw [List.dropWhile_cons_of_neg (by simp [ends c rfl])]

end Text

namespace Dsl

open Text

/-! ## Characters -/

/-- A character of a name or a numeral. -/
def isPieceChar (c : Char) : Bool := isNameChar c || isDigit c || c == '-'

theorem pieceChar_facts {c : Char} (h : isPieceChar c = true) :
    isBlank c = false ∧ c ≠ '"' ∧ c ≠ '{' ∧ c ≠ '}' ∧ c ≠ '\\' ∧ c ≠ '#' ∧ c ≠ '/' := by
  have ne : ∀ d, isPieceChar d = false → c ≠ d := by
    rintro d other rfl
    rw [h] at other
    cases other
  exact ⟨not_isBlank_of_forall (by decide +kernel) h, ne _ (by decide), ne _ (by decide), ne _ (by decide),
    ne _ (by decide), ne _ (by decide), ne _ (by decide)⟩

theorem not_isPieceChar_of_isBlank {c : Char} (blank : isBlank c = true) : isPieceChar c = false := by
  rw [Bool.eq_false_iff]
  intro char
  rw [(pieceChar_facts char).1] at blank
  cases blank

/-- Nothing but characters of pieces. -/
def IsPiece (cs : List Char) : Prop := ∀ c ∈ cs, isPieceChar c = true

instance (cs : List Char) : Decidable (IsPiece cs) := List.decidableBAll _ cs

namespace IsPiece

variable {cs ds : List Char}

theorem head (h : IsPiece cs) (nonempty : cs ≠ []) (rest : List Char) :
    ∀ c ∈ (cs ++ rest).head?, isPieceChar c = true := by
  obtain ⟨d, ds, rfl⟩ := List.exists_cons_of_ne_nil nonempty
  rintro c ⟨⟩
  exact h _ List.mem_cons_self

theorem append (h : IsPiece cs) (h' : IsPiece ds) : IsPiece (cs ++ ds) := List.forall_mem_append.2 ⟨h, h'⟩

theorem ends_blank (h : IsPiece cs) (nonempty : cs ≠ []) (rest : List Char) :
    ∀ c ∈ (cs ++ rest).head?, isBlank c = false :=
  fun c hc => (pieceChar_facts (h.head nonempty rest c hc)).1

theorem bare (h : IsPiece cs) : IsBare cs := by
  intro c hc
  obtain ⟨_, notQuote, notOpening, notClosing, _⟩ := pieceChar_facts (h c hc)
  exact ⟨notQuote, notOpening, notClosing⟩

theorem unbroken (h : IsPiece cs) : IsUnbroken cs :=
  fun c hc => unbroken_of_not_isBlank (pieceChar_facts (h c hc)).1

end IsPiece

/-! ## Gaps -/

/-- One or more blanks on one line. -/
structure IsGap (gap : List Char) : Prop where
  ne_nil : gap ≠ []
  blank : ∀ c ∈ gap, isBlank c = true
  unbroken : IsUnbroken gap

instance (gap : List Char) : Decidable (IsGap gap) :=
  decidable_of_iff (gap ≠ [] ∧ gap.all isBlank = true ∧ IsUnbroken gap)
    ⟨fun ⟨nonempty, blank, unbroken⟩ => ⟨nonempty, List.all_eq_true.1 blank, unbroken⟩,
      fun h => ⟨h.ne_nil, List.all_eq_true.2 h.blank, h.unbroken⟩⟩

theorem isGap_blank : IsGap [' '] := by decide

theorem dropBlanks?_gap {gap rest : List Char} (h : IsGap gap) (ends : ∀ c ∈ rest.head?, isBlank c = false) :
    dropBlanks? (gap ++ rest) = some rest := by
  obtain ⟨c, cs, rfl⟩ := List.exists_cons_of_ne_nil h.ne_nil
  have blank := List.forall_mem_cons.1 h.blank
  rw [List.cons_append, dropBlanks?, if_pos blank.1, trimLeft, dropWhile_run blank.2 ends]

theorem IsGap.head {gap : List Char} (h : IsGap gap) (rest : List Char) :
    ∀ c ∈ (gap ++ rest).head?, isBlank c = true := by
  obtain ⟨d, ds, rfl⟩ := List.exists_cons_of_ne_nil h.ne_nil
  rintro c ⟨⟩
  exact h.blank _ List.mem_cons_self

/-! ## Names -/

/-- The identifier of an element, as it may be written. -/
structure IsName (cs : List Char) : Prop where
  ne_nil : cs ≠ []
  chars : ∀ c ∈ cs, isNameChar c = true

instance (cs : List Char) : Decidable (IsName cs) :=
  decidable_of_iff (cs ≠ [] ∧ cs.all isNameChar = true)
    ⟨fun ⟨nonempty, chars⟩ => ⟨nonempty, List.all_eq_true.1 chars⟩, fun h => ⟨h.ne_nil, List.all_eq_true.2 h.chars⟩⟩

theorem IsName.piece {cs : List Char} (h : IsName cs) : IsPiece cs := fun c hc => by simp [isPieceChar, h.chars c hc]

theorem name?_append {cs rest : List Char} (h : IsName cs) (ends : ∀ c ∈ rest.head?, isNameChar c = false) :
    name? (cs ++ rest) = some (cs, rest) := by
  have nonempty : cs.isEmpty = false := by simpa using h.ne_nil
  rw [name?, takeWhile_run h.chars ends, dropWhile_run h.chars ends, nonempty]
  rfl

/-! ## Numerals -/

/-- One or more digits. -/
structure IsDigits (cs : List Char) : Prop where
  ne_nil : cs ≠ []
  digits : ∀ c ∈ cs, isDigit c = true

instance (cs : List Char) : Decidable (IsDigits cs) :=
  decidable_of_iff (cs ≠ [] ∧ cs.all isDigit = true)
    ⟨fun ⟨nonempty, digits⟩ => ⟨nonempty, List.all_eq_true.1 digits⟩,
      fun h => ⟨h.ne_nil, List.all_eq_true.2 h.digits⟩⟩

/-- A numeral of the grammar. -/
structure Numeral.IsWritten (n : Numeral) : Prop where
  whole : IsDigits n.whole
  fraction : ∀ ds ∈ n.fraction, IsDigits ds

/-- A numeral ends before this text. -/
def EndsNumeral (rest : List Char) : Prop := ∀ c ∈ rest.head?, isDigit c = false ∧ c ≠ '.'

variable {n : Numeral} {rest : List Char}

theorem IsDigits.isEmpty {cs : List Char} (h : IsDigits cs) : cs.isEmpty = false := by simpa using h.ne_nil

theorem unsigned?_append (h : n.IsWritten) (ends : EndsNumeral rest) :
    unsigned? n.negative (n.whole ++ (n.fraction.elim [] ('.' :: ·) ++ rest)) = some (n, rest) := by
  obtain ⟨negative, whole, fraction⟩ := n
  have noDigit : ∀ c ∈ rest.head?, isDigit c = false := fun c hc => (ends c hc).1
  cases fraction with
  | none =>
    have noFraction : fraction? rest = none := by
      unfold fraction?
      split
      · next cs => exact absurd rfl (ends '.' rfl).2
      · rfl
    simp only [Option.elim_none, List.nil_append]
    rw [unsigned?, takeWhile_run h.whole.digits noDigit, dropWhile_run h.whole.digits noDigit, h.whole.isEmpty,
      noFraction]
    rfl
  | some ds =>
    have digits := h.fraction ds rfl
    have point : ∀ c ∈ ('.' :: ds ++ rest).head?, isDigit c = false := by
      rintro c ⟨⟩
      decide
    have read : fraction? ('.' :: ds ++ rest) = some (ds, rest) := by
      rw [List.cons_append, fraction?, takeWhile_run digits.digits noDigit, dropWhile_run digits.digits noDigit,
        digits.isEmpty]
      rfl
    simp only [Option.elim_some]
    rw [unsigned?, takeWhile_run h.whole.digits point, dropWhile_run h.whole.digits point, h.whole.isEmpty, read]
    rfl

theorem Numeral.text_eq (n : Numeral) :
    n.text = (if n.negative then ['-'] else []) ++ (n.whole ++ n.fraction.elim [] ('.' :: ·)) := by
  rw [Numeral.text, List.append_assoc]
  cases n.fraction <;> rfl

theorem numeral?_append (h : n.IsWritten) (ends : EndsNumeral rest) : numeral? (n.text ++ rest) = some (n, rest) := by
  have read := unsigned?_append h ends
  rw [Numeral.text_eq, List.append_assoc, List.append_assoc]
  cases sign : n.negative with
  | true =>
    rw [sign] at read
    exact read
  | false =>
    obtain ⟨c, cs, whole⟩ := List.exists_cons_of_ne_nil h.whole.ne_nil
    have digit : isDigit c = true := h.whole.digits c (whole ▸ List.mem_cons_self)
    rw [sign] at read
    rw [if_neg Bool.false_ne_true, List.nil_append]
    rw [whole, List.cons_append] at read ⊢
    rw [numeral?, read]
    rintro _ minus
    rw [(List.cons.inj minus).1] at digit
    exact absurd digit (by decide)

theorem IsDigits.piece {cs : List Char} (h : IsDigits cs) : IsPiece cs := fun c hc => by
  simp [isPieceChar, h.digits c hc]

namespace Numeral.IsWritten

theorem piece (h : n.IsWritten) : IsPiece n.text := by
  have sign : IsPiece (if n.negative then ['-'] else []) := by
    cases n.negative <;> decide
  have fraction : IsPiece (n.fraction.elim [] ('.' :: ·)) := by
    cases given : n.fraction with
    | none => exact List.forall_mem_nil _
    | some ds => exact List.forall_mem_cons.2 ⟨by decide, (h.fraction ds given).piece⟩
  rw [Numeral.text_eq]
  exact sign.append (h.whole.piece.append fraction)

theorem ne_nil (h : n.IsWritten) : n.text ≠ [] := by
  rw [Numeral.text_eq]
  simp [h.whole.ne_nil]

end Numeral.IsWritten

/-! ## What ends at a gap -/

namespace IsGap

variable {gap : List Char}

theorem ends_name (h : IsGap gap) (rest : List Char) : ∀ c ∈ (gap ++ rest).head?, isNameChar c = false := by
  intro c hc
  have none := not_isPieceChar_of_isBlank (h.head rest c hc)
  simp only [isPieceChar, Bool.or_eq_false_iff] at none
  exact none.1.1

theorem ends_numeral (h : IsGap gap) (rest : List Char) : EndsNumeral (gap ++ rest) := by
  intro c hc
  have blank := h.head rest c hc
  have none := not_isPieceChar_of_isBlank blank
  simp only [isPieceChar, Bool.or_eq_false_iff] at none
  refine ⟨none.1.2, ?_⟩
  rintro rfl
  exact absurd blank (by decide)

end IsGap

end Dsl

end Blueprint
