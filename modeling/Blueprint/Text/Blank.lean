/-
  Blueprint.Text.Blank — blank characters, and what is cut at them.

  Text is handled as a list of characters. A character is blank if it is white space in the
  Unicode sense or one of the four information separators U+001C to U+001F. `trim` drops blanks at
  both ends, and `fields` are the pieces between separators, empty ones included.

  Proved: every character that core calls white space is blank (`isBlank_of_isWhitespace`);
  a text has one field more than it has separators (`length_fields`).
-/

namespace Blueprint.Text

def isBlank (c : Char) : Bool :=
  let n := c.toNat
  (9 ≤ n && n ≤ 13) || (28 ≤ n && n ≤ 32) || n == 0x85 || n == 0xA0 || n == 0x1680 ||
    (0x2000 ≤ n && n ≤ 0x200A) || n == 0x2028 || n == 0x2029 || n == 0x202F || n == 0x205F || n == 0x3000

def trimLeft (cs : List Char) : List Char := cs.dropWhile isBlank

def trimRight (cs : List Char) : List Char := (cs.reverse.dropWhile isBlank).reverse

def trim (cs : List Char) : List Char := trimRight (trimLeft cs)

def allBlank (cs : List Char) : Bool := cs.all isBlank

/-- The pieces of a text between separators; a text without one is its own only field. -/
def fields (isSeparator : Char → Bool) : List Char → List (List Char)
  | [] => [[]]
  | c :: cs =>
    if isSeparator c then [] :: fields isSeparator cs
    else match fields isSeparator cs with
      | [] => [[c]]
      | f :: fs => (c :: f) :: fs

/-! ## Small facts -/

theorem isBlank_of_isWhitespace {c : Char} (h : c.isWhitespace = true) : isBlank c = true := by
  simp only [Char.isWhitespace, Bool.or_eq_true, decide_eq_true_eq] at h
  rcases h with ((h | h) | h) | h <;> subst h <;> decide

theorem fields_ne_nil (p : Char → Bool) (cs : List Char) : fields p cs ≠ [] := by
  cases cs with
  | nil => simp [fields]
  | cons c cs =>
    rw [fields]
    split
    · simp
    · split <;> simp

theorem length_fields (p : Char → Bool) (cs : List Char) :
    (fields p cs).length = cs.countP p + 1 := by
  induction cs with
  | nil => rfl
  | cons c cs ih =>
    rw [fields, List.countP_cons]
    split
    · simp [ih]
    · next h =>
      split
      · next h' => exact absurd h' (fields_ne_nil p cs)
      · next f fs h' => rw [h'] at ih; simpa [h] using ih

end Blueprint.Text
