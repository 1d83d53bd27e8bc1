/-
  Blueprint.Proofs.Dsl.Coordinates — coordinates that are written and read.

  A finite coordinate is written as the numeral of the nearest integer: a sign, perhaps, and digits. So it
  stands on a line of its own kind, and a reader finds the numeral again wherever no digit and no point
  follows it.

  Proved: the characters of a written coordinate (`isNumberChar_of_mem_coordinateText`); it is the numeral of the
  nearest integer (`coordinateText_eq_text`). A line that records a position is read as that, whatever the gaps between
  its pieces are (`elementPosition?_text`), and so is the note that is written (`elementPosition?_record`).
-/

import Blueprint.Dsl.Writer
import Blueprint.Proofs.Dsl.Reading
import Blueprint.Proofs.Number.Whole

namespace Blueprint.Dsl

open Text

/-- The written form of a finite coordinate. -/
def coordinateText : Binary64 → List Char
  | .finite negative m e => intDigits (Binary64.nearestInt negative m e)
  | .infinite _ => []
  | .undefined => []

theorem wholeText_eq {x : Binary64} (h : x.isFinite = true) : wholeText x = .ok (coordinateText x) := by
  cases x with
  | finite negative m e => rfl
  | infinite negative => cases h
  | undefined => cases h

theorem coordinateText_eq {x : Binary64} (h : x.isFinite = true) : coordinateText x = intDigits x.nearest := by
  cases x with
  | finite negative m e => rfl
  | infinite negative => cases h
  | undefined => cases h

/-! ## Characters -/

/-- A character of a whole number. -/
def isNumberChar (c : Char) : Bool := isAsciiDigit c || c == '-'

theorem isNumberChar_of_mem_coordinateText {x : Binary64} {c : Char} (h : c ∈ coordinateText x) :
    isNumberChar c = true := by
  have digits : ∀ n, ∀ c ∈ natDigits n, isNumberChar c = true := fun n c hc => by
    simp [isNumberChar, isAsciiDigit_of_mem_natDigits hc]
  cases x with
  | infinite negative => cases h
  | undefined => cases h
  | finite negative m e =>
    rw [coordinateText, intDigits] at h
    split at h
    · rcases List.mem_cons.1 h with rfl | h
      · rfl
      · exact digits _ c h
    · exact digits _ c h

theorem natDigits_ne_nil (n : Nat) : natDigits n ≠ [] := by
  rw [natDigits]
  split <;> simp

theorem coordinateText_ne_nil {x : Binary64} (h : x.isFinite = true) : coordinateText x ≠ [] := by
  rw [coordinateText_eq h, intDigits]
  split
  · simp
  · exact natDigits_ne_nil _

theorem numberChar_facts {c : Char} (h : isNumberChar c = true) :
    isBlank c = false ∧ c ≠ '"' ∧ c ≠ '{' ∧ c ≠ '}' ∧ c ≠ '\\' := by
  simp only [isNumberChar, Bool.or_eq_true, beq_iff_eq] at h
  rcases h with digit | rfl
  · have char := isIdentifierChar_of_digit digit
    exact ⟨not_isBlank_of_identifierChar char, ne_of_class char rfl, ne_of_class char rfl,
      ne_of_class char rfl, ne_of_class char rfl⟩
  · decide

theorem unbroken_coordinateText (x : Binary64) : IsUnbroken (coordinateText x) := fun _ hc =>
  unbroken_of_not_isBlank (numberChar_facts (isNumberChar_of_mem_coordinateText hc)).1

theorem isFlat_coordinateText (x : Binary64) : IsFlat (coordinateText x) := by
  refine IsBare.flat fun c hc => ?_
  obtain ⟨_, notQuote, notOpening, notClosing, _⟩ := numberChar_facts (isNumberChar_of_mem_coordinateText hc)
  exact ⟨notQuote, notOpening, notClosing⟩

/-! ## Numerals -/

theorem isDigit_of_isAsciiDigit {c : Char} (h : isAsciiDigit c = true) : isDigit c = true := by
  have bounds : 48 ≤ c.toNat ∧ c.toNat ≤ 57 := by
    simp only [isAsciiDigit, Bool.and_eq_true, decide_eq_true_eq] at h
    exact ⟨h.1, h.2⟩
  rw [isDigit, digitValue_ascii bounds]
  rfl

theorem isWritten_wholeNumeral (n : Int) : (wholeNumeral n).IsWritten where
  whole := ⟨natDigits_ne_nil _, fun _ hc => isDigit_of_isAsciiDigit (isAsciiDigit_of_mem_natDigits hc)⟩
  fraction := fun _ given => nomatch given

theorem text_wholeNumeral (n : Int) : (wholeNumeral n).text = intDigits n := by
  rw [intDigits, Numeral.text, wholeNumeral, List.append_nil]
  by_cases negative : n < 0 <;> simp [negative]

theorem coordinateText_eq_text {x : Binary64} (h : x.isFinite = true) :
    coordinateText x = (wholeNumeral x.nearest).text := by
  rw [coordinateText_eq h, text_wholeNumeral]

/-! ## Recorded positions -/

/-- Two numerals, apart by a gap. -/
def coordinates (x : Numeral) (gap : List Char) (y : Numeral) : List Char := x.text ++ (gap ++ y.text)

/-- A line about an element: its name, and what is behind it. -/
def elementText (gap name gap' rest : List Char) : List Char :=
  "element".toList ++ (gap ++ (name ++ (gap' ++ rest)))

section

variable {gap gap' gap'' name : List Char} {x y : Numeral}

theorem numeral?_first (hx : x.IsWritten) (h : IsGap gap) (y : Numeral) :
    numeral? (coordinates x gap y) = some (x, gap ++ y.text) := numeral?_append hx (h.ends_numeral _)

theorem numeral?_second (hy : y.IsWritten) (h : IsGap gap) :
    (dropBlanks? (gap ++ y.text)).bind numeral? = some (y, []) := by
  have ends := hy.piece.ends_blank hy.ne_nil []
  have none : EndsNumeral [] := fun _ hc => nomatch hc
  have read := numeral?_append hy none
  rw [List.append_nil] at ends read
  rw [dropBlanks?_gap h ends]
  exact read

theorem dropBlanks?_name (h : IsGap gap) (named : IsName name) (rest : List Char) :
    dropBlanks? (gap ++ (name ++ rest)) = some (name ++ rest) :=
  dropBlanks?_gap h (named.piece.ends_blank named.ne_nil rest)

theorem dropBlanks?_coordinates (h : IsGap gap) (hx : x.IsWritten) (gap' : List Char) (y : Numeral) :
    dropBlanks? (gap ++ coordinates x gap' y) = some (coordinates x gap' y) :=
  dropBlanks?_gap h (hx.piece.ends_blank hx.ne_nil _)

theorem dropWord?_elementText (gap name gap' rest : List Char) :
    dropWord? "element".toList (elementText gap name gap' rest) = some (gap ++ (name ++ (gap' ++ rest))) :=
  dropWord?_append _ _

theorem elementPosition?_text (h : IsGap gap) (named : IsName name) (h' : IsGap gap') (hx : x.IsWritten)
    (h'' : IsGap gap'') (hy : y.IsWritten) :
    elementPosition? (elementText gap name gap' (coordinates x gap'' y)) = some (.elementPosition name x y) := by
  rw [elementPosition?, dropWord?_elementText]
  simp only [Option.bind_eq_bind, Option.bind_some, dropBlanks?_name h named, name?_append named (h'.ends_name _),
    dropBlanks?_coordinates h' hx, numeral?_first hx h'' y]
  rw [← Option.bind_assoc, numeral?_second hy h'']
  rfl

end

theorem elementPosition?_record {w : List Char} (word : IsWord w) {x y : Binary64} (hx : x.isFinite = true)
    (hy : y.isFinite = true) :
    elementPosition? ("element ".toList ++ (w ++ ' ' :: (coordinateText x ++ ' ' :: coordinateText y))) =
      some (.elementPosition w (wholeNumeral x.nearest) (wholeNumeral y.nearest)) := by
  have text : ∀ m n : Numeral, "element ".toList ++ (w ++ ' ' :: (m.text ++ ' ' :: n.text)) =
      elementText [' '] w [' '] (coordinates m [' '] n) := fun _ _ => rfl
  rw [coordinateText_eq_text hx, coordinateText_eq_text hy, text]
  exact elementPosition?_text isGap_blank (isName_word word) isGap_blank (isWritten_wholeNumeral _) isGap_blank
    (isWritten_wholeNumeral _)

end Blueprint.Dsl
