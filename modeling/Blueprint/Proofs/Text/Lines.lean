/-
  Blueprint.Proofs.Text.Lines — lines that are joined by line feeds, and texts without blank ends.

  Proved: lines of which none is broken and the last is not empty come back from the text that joins
  them (`lines_intercalate`); a character that ends no line stands in the lines as often as in the text
  (`count_lines`); trimming takes the blanks in front of a text and nothing of the text itself
  (`IsTrimmed.trim_append`), and it takes them all (`exists_trim`, `isTrimmed_trim`).
-/

import Blueprint.Proofs.Text.Clean
import Blueprint.Text.Blank

namespace Blueprint.Text

/-! ## Lines -/

theorem linesFrom_append {cs : List Char} (h : IsUnbroken cs) (line rest : List Char) :
    linesFrom line (cs ++ '\n' :: rest) = (line.reverse ++ cs) :: linesFrom [] rest := by
  induction cs generalizing line with
  | nil => simp [linesFrom, isLineBoundary]
  | cons c cs ih =>
    obtain ⟨unbroken, later⟩ := isUnbroken_cons.1 h
    have notReturn : c ≠ '\r' := by rintro rfl; revert unbroken; decide
    rw [List.cons_append, linesFrom, if_neg (by simp [unbroken]), ih later]
    · simp
    · intro _ hr; exact absurd hr notReturn

theorem lines_intercalate {ls : List (List Char)} (unbroken : ∀ l ∈ ls, IsUnbroken l)
    (last : ls.getLast? ≠ some []) :
    lines (['\n'].intercalate ls) = ls := by
  induction ls with
  | nil => rfl
  | cons l ls ih =>
    have here := unbroken l List.mem_cons_self
    cases ls with
    | nil =>
      have nonempty : l ≠ [] := fun e => last (by rw [e]; rfl)
      rw [List.intercalate_singleton, lines_of_unbroken here nonempty]
    | cons next ls =>
      have later := ih (fun m hm => unbroken m (List.mem_cons_of_mem _ hm)) (by simpa using last)
      rw [List.intercalate_cons_cons, List.append_assoc, List.singleton_append, lines, linesFrom_append here]
      exact congrArg (l :: ·) later

/-- A character that ends no line stands in the lines as often as in the text. -/
theorem count_linesFrom {c : Char} (inside : isLineBoundary c = false) (line cs : List Char) :
    (linesFrom line cs).flatten.count c = line.count c + cs.count c := by
  have ne : ∀ d, isLineBoundary d = true → d ≠ c := by
    rintro d boundary rfl
    rw [boundary] at inside
    cases inside
  fun_induction linesFrom line cs with
  | case1 line empty =>
    rw [List.isEmpty_iff.1 empty]
    rfl
  | case2 line more => simp
  | case3 line cs ih =>
    rw [List.flatten_cons, List.count_append, List.count_reverse, ih, List.count_cons_of_ne (ne '\r' (by decide)),
      List.count_cons_of_ne (ne '\n' (by decide)), List.count_nil, Nat.zero_add]
  | case4 line d cs noFeed boundary ih =>
    rw [List.flatten_cons, List.count_append, List.count_reverse, ih, List.count_cons_of_ne (ne d boundary),
      List.count_nil, Nat.zero_add]
  | case5 line d cs noFeed inner ih =>
    rw [ih, List.count_cons, List.count_cons]
    omega

theorem count_lines {c : Char} (inside : isLineBoundary c = false) (cs : List Char) :
    (lines cs).flatten.count c = cs.count c := by
  rw [lines, count_linesFrom inside, List.count_nil, Nat.zero_add]

/-! ## Blanks at the ends -/

theorem trimLeft_of_head {c : Char} {cs : List Char} (h : isBlank c = false) :
    trimLeft (c :: cs) = c :: cs := by
  simp [trimLeft, h]

theorem trimRight_of_last {c : Char} {cs : List Char} (last : cs.getLast? = some c) (h : isBlank c = false) :
    trimRight cs = cs := by
  obtain ⟨front, rfl⟩ := List.getLast?_eq_some_iff.1 last
  rw [trimRight, List.reverse_append, List.reverse_singleton, List.singleton_append,
    List.dropWhile_cons_of_neg (by simp [h]),
    List.reverse_cons, List.reverse_reverse]

theorem trimLeft_append {blanks : List Char} (h : ∀ c ∈ blanks, isBlank c = true) (cs : List Char) :
    trimLeft (blanks ++ cs) = trimLeft cs := List.dropWhile_append_of_pos h

/-- A text begins and ends with characters that are not blank. -/
structure IsTrimmed (cs : List Char) : Prop where
  head : ∃ c, cs.head? = some c ∧ isBlank c = false
  last : ∃ c, cs.getLast? = some c ∧ isBlank c = false

theorem IsTrimmed.trim_append {cs blanks : List Char} (h : IsTrimmed cs) (hb : ∀ c ∈ blanks, isBlank c = true) :
    trim (blanks ++ cs) = cs := by
  obtain ⟨c, hc, notBlank⟩ := h.head
  obtain ⟨d, hd, notBlank'⟩ := h.last
  obtain ⟨ds, rfl⟩ := List.head?_eq_some_iff.1 hc
  rw [trim, trimLeft_append hb, trimLeft_of_head notBlank, trimRight_of_last hd notBlank']

theorem IsTrimmed.trim_eq {cs : List Char} (h : IsTrimmed cs) :
    trim cs = cs := h.trim_append (List.forall_mem_nil _)

/-! ## What is trimmed -/

theorem head?_trimLeft {cs : List Char} {c : Char} (h : (trimLeft cs).head? = some c) : isBlank c = false := by
  have first := List.head?_dropWhile_not isBlank cs
  rw [← trimLeft, h] at first
  exact first

theorem getLast?_trimRight {cs : List Char} {c : Char} (h : (trimRight cs).getLast? = some c) :
    isBlank c = false := by
  rw [trimRight, List.getLast?_reverse] at h
  exact head?_trimLeft h

theorem blank_takeWhile (cs : List Char) : ∀ c ∈ cs.takeWhile isBlank, isBlank c = true :=
  List.all_eq_true.1 List.all_takeWhile

/-- Only blanks are left out. -/
theorem exists_trim (cs : List Char) :
    ∃ before behind, (∀ c ∈ before, isBlank c = true) ∧ (∀ c ∈ behind, isBlank c = true) ∧
      cs = before ++ (trim cs ++ behind) := by
  refine ⟨cs.takeWhile isBlank, ((trimLeft cs).reverse.takeWhile isBlank).reverse, blank_takeWhile cs, ?_, ?_⟩
  · exact fun c hc => blank_takeWhile _ c (List.mem_reverse.1 hc)
  · have right : trim cs ++ ((trimLeft cs).reverse.takeWhile isBlank).reverse = trimLeft cs := by
      rw [trim, trimRight, ← List.reverse_append, List.takeWhile_append_dropWhile, List.reverse_reverse]
    rw [right, trimLeft, List.takeWhile_append_dropWhile]

theorem isTrimmed_trim {cs : List Char} (nonempty : trim cs ≠ []) : IsTrimmed (trim cs) := by
  constructor
  · obtain ⟨c, rest, text⟩ := List.exists_cons_of_ne_nil nonempty
    have starts : trim cs <+: trimLeft cs := by
      rw [trim, trimRight, ← List.reverse_suffix, List.reverse_reverse]
      exact List.dropWhile_suffix _
    obtain ⟨behind, whole⟩ := starts
    have first : (trimLeft cs).head? = some c := by
      rw [← whole, text]
      rfl
    exact ⟨c, by rw [text]; rfl, head?_trimLeft first⟩
  · have last := List.getLast?_eq_some_getLast nonempty
    exact ⟨_, last, getLast?_trimRight last⟩

end Blueprint.Text
