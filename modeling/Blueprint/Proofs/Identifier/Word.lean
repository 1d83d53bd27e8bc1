/-
  Blueprint.Proofs.Identifier.Word — words, of which identifiers are made.

  A word is an ASCII letter and then letters, digits and low lines. None of its characters is blank or
  ends a line, and each is part of a word wherever words are read.
-/

import Blueprint.Identifier.Allocation
import Blueprint.Proofs.Text.Clean

namespace Blueprint

open Text

section Chars

variable {c : Char}

theorem isKeyChar_of_identifierChar (h : isIdentifierChar c = true) : isKeyChar c = true := by
  simp only [isIdentifierChar] at h
  simp [isKeyChar, h]

theorem not_isBlank_of_identifierChar (h : isIdentifierChar c = true) : isBlank c = false :=
  not_isBlank_of_isKeyChar (isKeyChar_of_identifierChar h)

theorem toNat_lt_of_identifierChar (h : isIdentifierChar c = true) : c.toNat < 128 :=
  toNat_lt_of_isKeyChar (isKeyChar_of_identifierChar h)

theorem isWordChar_of_identifierChar (h : isIdentifierChar c = true) : isWordChar c = true := by
  rw [isWordChar, if_pos (toNat_lt_of_identifierChar h)]
  exact h

theorem isBlank_of_isLineBoundary (h : isLineBoundary c = true) : isBlank c = true := by
  simp only [isLineBoundary, isBlank, Bool.or_eq_true, Bool.and_eq_true, decide_eq_true_eq, beq_iff_eq] at h ⊢
  omega

theorem unbroken_of_not_isBlank (h : isBlank c = false) : isLineBoundary c = false :=
  Bool.eq_false_iff.2 fun boundary => Bool.eq_false_iff.1 h (isBlank_of_isLineBoundary boundary)

end Chars

/-- An ASCII letter, then letters, digits and low lines. -/
def IsWord (cs : List Char) : Prop :=
  ∃ c ds, cs = c :: ds ∧ isAsciiLetter c = true ∧ ∀ d ∈ ds, isIdentifierChar d = true

instance (cs : List Char) : Decidable (IsWord cs) :=
  match cs with
  | [] => isFalse fun ⟨_, _, e, _⟩ => nomatch e
  | c :: ds => decidable_of_iff (isAsciiLetter c = true ∧ ds.all isIdentifierChar = true)
    ⟨fun ⟨letter, all⟩ => ⟨c, ds, rfl, letter, List.all_eq_true.1 all⟩,
      fun ⟨_, _, e, letter, all⟩ => by cases e; exact ⟨letter, List.all_eq_true.2 all⟩⟩

theorem isIdentifierChar_of_letter {c : Char} (h : isAsciiLetter c = true) : isIdentifierChar c = true := by
  simp [isIdentifierChar, isAsciiAlphanumeric, h]

theorem isIdentifierChar_of_digit {c : Char} (h : isAsciiDigit c = true) : isIdentifierChar c = true := by
  simp [isIdentifierChar, isAsciiAlphanumeric, h]

namespace IsWord

variable {cs ds : List Char}

theorem forall_mem (h : IsWord cs) : ∀ c ∈ cs, isIdentifierChar c = true := by
  obtain ⟨c, ds, rfl, letter, all⟩ := h
  exact List.forall_mem_cons.2 ⟨isIdentifierChar_of_letter letter, all⟩

theorem append (h : IsWord cs) (hd : ∀ d ∈ ds, isIdentifierChar d = true) : IsWord (cs ++ ds) := by
  obtain ⟨c, es, rfl, letter, all⟩ := h
  exact ⟨c, es ++ ds, rfl, letter, List.forall_mem_append.2 ⟨all, hd⟩⟩

theorem unbroken (h : IsWord cs) : IsUnbroken cs :=
  fun c hc => unbroken_of_not_isBlank (not_isBlank_of_identifierChar (h.forall_mem c hc))

theorem head (h : IsWord cs) : ∃ c, cs.head? = some c ∧ isAsciiLetter c = true := by
  obtain ⟨c, ds, rfl, letter, _⟩ := h
  exact ⟨c, rfl, letter⟩

theorem ne_nil (h : IsWord cs) : cs ≠ [] := by
  obtain ⟨c, ds, rfl, _⟩ := h
  simp

end IsWord

end Blueprint
