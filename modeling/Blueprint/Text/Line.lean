/-
  Blueprint.Text.Line — line boundaries.

  A line ends at a line feed, a carriage return (with the line feed that follows it, if any), a
  vertical tab, a form feed, U+001C to U+001E, U+0085, U+2028 or U+2029. The boundary at the very end
  of a text opens no further line, so an empty text has no lines.

  Proved: a text without boundaries is one line (`lines_of_unbroken`).
-/

namespace Blueprint.Text

def isLineBoundary (c : Char) : Bool :=
  let n := c.toNat
  (10 ≤ n && n ≤ 13) || (28 ≤ n && n ≤ 30) || n == 0x85 || n == 0x2028 || n == 0x2029

/-- The lines of a text whose current line, read backwards, is `line`. -/
def linesFrom (line : List Char) : List Char → List (List Char)
  | [] => if line.isEmpty then [] else [line.reverse]
  | '\r' :: '\n' :: cs => line.reverse :: linesFrom [] cs
  | c :: cs => if isLineBoundary c then line.reverse :: linesFrom [] cs else linesFrom (c :: line) cs

def lines (cs : List Char) : List (List Char) := linesFrom [] cs

/-- Reads a carriage return, alone or before a line feed, as a line feed. -/
def normalizeNewlines : List Char → List Char
  | [] => []
  | '\r' :: '\n' :: cs => '\n' :: normalizeNewlines cs
  | c :: cs => (if c = '\r' then '\n' else c) :: normalizeNewlines cs

/-- Drops a line feed at the very end. -/
def dropFinalLineFeed : List Char → List Char
  | [] => []
  | ['\n'] => []
  | c :: cs => c :: dropFinalLineFeed cs

/-! ## Small facts -/

theorem linesFrom_of_unbroken {line cs : List Char} (h : ∀ c ∈ cs, isLineBoundary c = false) :
    linesFrom line cs = if (line.reverse ++ cs).isEmpty then [] else [line.reverse ++ cs] := by
  induction cs generalizing line with
  | nil => simp [linesFrom]
  | cons c cs ih =>
    have hc := h c (by simp)
    have notReturn : c ≠ '\r' := by rintro rfl; revert hc; decide
    rw [linesFrom, if_neg (by simp [hc]), ih fun d hd => h d (List.mem_cons_of_mem _ hd)]
    · simp
    · intro _ hr; exact absurd hr notReturn

theorem lines_of_unbroken {cs : List Char} (h : ∀ c ∈ cs, isLineBoundary c = false) (hne : cs ≠ []) :
    lines cs = [cs] := by
  rw [lines, linesFrom_of_unbroken h]
  simp [hne]

end Blueprint.Text
