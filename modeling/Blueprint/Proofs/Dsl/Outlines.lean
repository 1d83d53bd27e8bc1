/-
  Blueprint.Proofs.Dsl.Outlines — an outline is read block by block.

  An outline is readable if its lines and headers are statements; a line may also be a note, that is a
  comment that is read as a live line. However far in it stands, a readable outline is read as its header,
  its contents, and a closing brace, so that what a builder makes of it follows the outline itself.

  Proved: one step of reading for every kind of outline (`feedAll_line`, `feedAll_note`,
  `feedAll_block`); a written block has just the statements of its outline (`feedAll_text`).
-/

import Blueprint.Dsl.Document
import Blueprint.Proofs.Dsl.Pieces

namespace Blueprint.Dsl

open Text

/-- The step by which contents stand further in consists of blanks on one line. -/
def IsIndent (step : List Char) : Prop := ∀ c ∈ step, isBlank c = true ∧ isLineBoundary c = false

instance (step : List Char) : Decidable (IsIndent step) := List.decidableBAll _ step

/-- The comment of a live line. -/
def note (content : List Char) : List Char := "# ".toList ++ content

structure IsNote (content : List Char) : Prop where
  solid : Solid content
  element : "element ".toList.isPrefixOf content = true

namespace Outline

mutual

def IsReadable : Outline → Prop
  | gap => True
  | line text => Solid text ∨ ∃ content, text = note content ∧ IsNote content
  | block header contents => Solid header ∧ AreReadable contents

def AreReadable : List Outline → Prop
  | [] => True
  | o :: os => o.IsReadable ∧ AreReadable os

end

theorem areReadable_iff {os : List Outline} : AreReadable os ↔ ∀ o ∈ os, o.IsReadable := by
  induction os with
  | nil => simp [AreReadable]
  | cons o os ih => rw [AreReadable, ih, List.forall_mem_cons]

theorem linesOf_append (step : List Char) (depth : Nat) (os ps : List Outline) :
    linesOf step depth (os ++ ps) = linesOf step depth os ++ linesOf step depth ps := by
  induction os with
  | nil => simp [linesOf]
  | cons o os ih => rw [List.cons_append, linesOf, linesOf, ih, List.append_assoc]

/-! ## Lines that stand for themselves -/

variable {step text content header : List Char}

theorem unbroken_indented (hstep : IsIndent step) (depth : Nat) (h : IsUnbroken text) :
    IsUnbroken (indented step depth text) := by
  refine isUnbroken_append.2 ⟨fun c hc => ?_, h⟩
  obtain ⟨s, hs, hc⟩ := List.mem_flatten.1 hc
  rw [List.eq_of_mem_replicate hs] at hc
  exact (hstep c hc).2

theorem trim_indented (hstep : IsIndent step) (depth : Nat) (h : IsTrimmed text) :
    trim (indented step depth text) = text := by
  refine h.trim_append fun c hc => ?_
  obtain ⟨s, hs, hc⟩ := List.mem_flatten.1 hc
  rw [List.eq_of_mem_replicate hs] at hc
  exact (hstep c hc).1

theorem isWhole_indented (hstep : IsIndent step) (depth : Nat) (unbroken : IsUnbroken text)
    (trimmed : IsTrimmed text) (noComment : "/*".toList.isPrefixOf text = false)
    (noJoin : text.getLast? ≠ some '\\') :
    IsWhole (indented step depth text) := by
  refine ⟨unbroken_indented hstep depth unbroken, ?_, ?_⟩
  · rw [trim_indented hstep depth trimmed]
    exact noComment
  · rw [trim_indented hstep depth trimmed]
    exact noJoin

theorem noComment_of_solid (h : Solid text) (rest : List Char) :
    "/*".toList.isPrefixOf (text ++ rest) = false := by
  obtain ⟨c, hc, letter⟩ := h.first
  obtain ⟨cs, rfl⟩ := List.head?_eq_some_iff.1 hc
  have notSlash : c ≠ '/' := ne_of_class letter rfl
  simp [List.isPrefixOf, notSlash.symm]

theorem isWhole_solid (hstep : IsIndent step) (depth : Nat) (h : Solid text) :
    IsWhole (indented step depth text) := by
  obtain ⟨d, hd, ending⟩ := h.last
  have noComment := noComment_of_solid h []
  rw [List.append_nil] at noComment
  refine isWhole_indented hstep depth h.unbroken h.trimmed noComment ?_
  rw [hd]
  exact fun e => (mayEnd_iff.1 ending).2.1 (Option.some.inj e)

theorem isWhole_opening (hstep : IsIndent step) (depth : Nat) (h : Solid header) :
    IsWhole (indented step depth (opening header)) := by
  refine isWhole_indented hstep depth ?_ h.trimmed_opening (noComment_of_solid h _) ?_
  · exact isUnbroken_append.2 ⟨h.unbroken, by decide⟩
  · rw [opening, List.getLast?_append]
    simp

theorem isWhole_closing (hstep : IsIndent step) (depth : Nat) : IsWhole (indented step depth ['}']) :=
  isWhole_indented hstep depth (by decide) ⟨⟨_, rfl, rfl⟩, ⟨_, rfl, rfl⟩⟩ rfl (by decide)

theorem trimmed_note (h : IsNote content) : IsTrimmed (note content) := by
  obtain ⟨d, hd, ending⟩ := h.solid.last
  refine ⟨⟨'#', rfl, rfl⟩, ⟨d, ?_, (mayEnd_iff.1 ending).1⟩⟩
  rw [note, List.getLast?_append, hd]
  rfl

theorem isWhole_note (hstep : IsIndent step) (depth : Nat) (h : IsNote content) :
    IsWhole (indented step depth (note content)) := by
  obtain ⟨d, hd, ending⟩ := h.solid.last
  refine isWhole_indented hstep depth (isUnbroken_append.2 ⟨by decide, h.solid.unbroken⟩) (trimmed_note h) rfl ?_
  rw [note, List.getLast?_append, hd]
  exact fun e => (mayEnd_iff.1 ending).2.1 (Option.some.inj e)

mutual

theorem isWhole_of_mem_lines (hstep : IsIndent step) (depth : Nat) (o : Outline) (h : o.IsReadable) :
    ∀ l ∈ o.lines step depth, IsWhole l := by
  cases o with
  | gap =>
    intro l hl
    rw [lines, List.mem_singleton] at hl
    subst hl
    exact ⟨isUnbroken_nil, rfl, by decide⟩
  | line text =>
    intro l hl
    rw [lines, List.mem_singleton] at hl
    subst hl
    rcases h with solid | ⟨content, rfl, isNote⟩
    · exact isWhole_solid hstep depth solid
    · exact isWhole_note hstep depth isNote
  | block header contents =>
    obtain ⟨solid, inner⟩ := h
    intro l hl
    rw [lines, List.mem_cons, List.mem_append, List.mem_singleton] at hl
    rcases hl with rfl | hl | rfl
    · exact isWhole_opening hstep depth solid
    · exact isWhole_of_mem_linesOf hstep (depth + 1) contents inner l hl
    · exact isWhole_closing hstep depth

theorem isWhole_of_mem_linesOf (hstep : IsIndent step) (depth : Nat) (os : List Outline) (h : AreReadable os) :
    ∀ l ∈ linesOf step depth os, IsWhole l := by
  cases os with
  | nil => intro l hl; cases hl
  | cons o os =>
    obtain ⟨here, later⟩ := h
    intro l hl
    rw [linesOf, List.mem_append] at hl
    rcases hl with hl | hl
    · exact isWhole_of_mem_lines hstep depth o here l hl
    · exact isWhole_of_mem_linesOf hstep depth os later l hl

end

end Outline

/-! ## Reading -/

variable {text : List Char}

theorem dropMarks_of_head {c : Char} (first : text.head? = some c) (notHash : c ≠ '#') (notSlash : c ≠ '/') :
    dropMarks text = text := by
  obtain ⟨cs, rfl⟩ := List.head?_eq_some_iff.1 first
  unfold dropMarks
  split
  · next h => exact absurd (List.cons.inj h).1 notHash
  · next h => exact absurd (List.cons.inj h).1 notSlash
  · rfl

/-- Marks in front of a blank or a letter are dropped, and the blanks behind them. -/
theorem trimLeft_dropMarks {space : List Char} (blank : ∀ c ∈ space, isBlank c = true) {c : Char}
    (first : text.head? = some c) (letter : isAsciiLetter c = true) : trimLeft (dropMarks (space ++ text)) = text := by
  have ends : ∀ d ∈ text.head?, isBlank d = false := by
    rintro d hd
    rw [first] at hd
    cases hd
    exact letter_not_blank letter
  have kept : dropMarks (space ++ text) = space ++ text := by
    cases space with
    | nil => exact dropMarks_of_head first (ne_of_class letter rfl) (ne_of_class letter rfl)
    | cons b space =>
      have blankHead := blank b List.mem_cons_self
      refine dropMarks_of_head (c := b) rfl ?_ ?_ <;> rintro rfl <;> exact absurd blankHead (by decide)
  rw [kept, trimLeft, dropWhile_run blank ends]

/-- A comment is live just if `element` and a space begin it behind the mark. -/
theorem statementsOf_marked {marker space : List Char} (mark : marker = "#".toList ∨ marker = "//".toList)
    (blank : ∀ c ∈ space, isBlank c = true) (solid : Solid text) (n : Nat) :
    statementsOf n (marker ++ (space ++ text)) =
      if "element ".toList.isPrefixOf text then [{ text, line := n, fromComment := true }] else [] := by
  obtain ⟨c, first, letter⟩ := solid.first
  have content : trimLeft (dropMarks (marker ++ (space ++ text))) = text := by
    have dropped : dropMarks (marker ++ (space ++ text)) = dropMarks (space ++ text) := by
      rcases mark with rfl | rfl <;> rfl
    rw [dropped, trimLeft_dropMarks blank first letter]
  have live : live? (marker ++ (space ++ text)) = if "element ".toList.isPrefixOf text then some (text, true) else none := by
    have comment : isComment (marker ++ (space ++ text)) = true := by
      rcases mark with rfl | rfl <;> rfl
    have spoken : (marker ++ (space ++ text)).isEmpty = false ∧
        "!".toList.isPrefixOf (marker ++ (space ++ text)) = false := by
      rcases mark with rfl | rfl <;> exact ⟨rfl, rfl⟩
    rw [live?, spoken.1, spoken.2, comment]
    simp only [content, Bool.or_self, Bool.false_eq_true, if_false, if_true]
  rw [statementsOf, live]
  by_cases spaced : "element ".toList.isPrefixOf text = true
  · rw [if_pos spaced, if_pos spaced]
    simp only [solid.cutAtBraces_eq, List.map_singleton]
  · rw [if_neg spaced, if_neg spaced]

theorem statementsOf_note {content : List Char} (h : IsNote content) (n : Nat) :
    statementsOf n (note content) = [{ text := content, line := n, fromComment := true }] := by
  have marked := statementsOf_marked (.inl rfl) isGap_blank.blank h.solid n
  rwa [if_pos h.element] at marked

namespace Builder

variable {ids : IdSource} {step : List Char} {depth n : Nat} {b : Builder} {os : List Outline}

/-- The innermost block is closed. -/
def close (b : Builder) : Builder := { b with stack := b.stack.tail }

/-- Takes in the lines of an outline, which are numbered from `n`. -/
def feedOutlines (ids : IdSource) (step : List Char) (depth n : Nat) (b : Builder) (os : List Outline) : Builder :=
  b.feedAll ids (statementsAt n (Outline.linesOf step depth os))

theorem feedAll_append (ids : IdSource) (b : Builder) (ss ts : List Statement) :
    b.feedAll ids (ss ++ ts) = (b.feedAll ids ss).feedAll ids ts := List.foldl_append

theorem feedOutlines_append (ids : IdSource) (step : List Char) (depth n : Nat) (b : Builder)
    (os ps : List Outline) :
    ∃ m, b.feedOutlines ids step depth n (os ++ ps) =
      (b.feedOutlines ids step depth n os).feedOutlines ids step depth m ps := by
  refine ⟨n + (Outline.linesOf step depth os).length, ?_⟩
  rw [feedOutlines, Outline.linesOf_append, statementsAt_append, feedAll_append]
  rfl

theorem feedOutlines_cons (ids : IdSource) (step : List Char) (depth n : Nat) (b : Builder) (o : Outline)
    (os : List Outline) :
    ∃ m, b.feedOutlines ids step depth n (o :: os) =
      (b.feedAll ids (statementsAt n (o.lines step depth))).feedOutlines ids step depth m os := by
  refine ⟨n + (o.lines step depth).length, ?_⟩
  rw [feedOutlines, Outline.linesOf, statementsAt_append, feedAll_append]
  rfl

theorem feedOutlines_gap (ids : IdSource) (step : List Char) (depth n : Nat) (b : Builder) (os : List Outline) :
    ∃ m, b.feedOutlines ids step depth n (.gap :: os) = b.feedOutlines ids step depth m os :=
  feedOutlines_cons ids step depth n b .gap os

theorem feedAll_line (hstep : IsIndent step) {text : List Char} (h : Solid text) :
    b.feedAll ids (statementsAt n ((Outline.line text).lines step depth)) = b.feed ids { text, line := n } := by
  rw [Outline.lines, statementsAt, Outline.trim_indented hstep depth h.trimmed, h.statements]
  rfl

theorem feedOutlines_line (hstep : IsIndent step) {text : List Char} (h : Solid text) :
    b.feedOutlines ids step depth n [.line text] = b.feed ids { text, line := n } := by
  rw [feedOutlines, Outline.linesOf, Outline.linesOf, List.append_nil, feedAll_line hstep h]

theorem feedAll_note (hstep : IsIndent step) {content : List Char} (h : IsNote content) :
    b.feedAll ids (statementsAt n ((Outline.line (note content)).lines step depth)) =
      b.feed ids { text := content, line := n, fromComment := true } := by
  rw [Outline.lines, statementsAt, Outline.trim_indented hstep depth (Outline.trimmed_note h), statementsOf_note h]
  rfl

/-- A block is read as its header, its contents and its end. -/
theorem feedAll_block (hstep : IsIndent step) {header : List Char} (h : Solid header) (contents : List Outline) :
    b.feedAll ids (statementsAt n ((Outline.block header contents).lines step depth)) =
      ((b.feed ids { text := opening header, line := n }).feedOutlines ids step (depth + 1) (n + 1) contents).close := by
  have first : statementsOf n (trim (Outline.indented step depth (header ++ [' ', '{']))) =
      [{ text := opening header, line := n }] := by
    rw [← opening, Outline.trim_indented hstep depth h.trimmed_opening, h.statements_opening]
  have last : trim (Outline.indented step depth ['}']) = ['}'] :=
    Outline.trim_indented hstep depth ⟨⟨_, rfl, rfl⟩, ⟨_, rfl, rfl⟩⟩
  rw [Outline.lines, statementsAt, first, statementsAt_append, statementsAt, last, statementsOf_closing,
    feedAll_append,
    feedAll_append]
  rfl

/-- The text of a block is read as the block. -/
theorem feedAll_text (hstep : IsIndent step) {header : List Char} {contents : List Outline}
    (h : (Outline.block header contents).IsReadable) (b : Builder) :
    b.feedAll ids (tokenize (String.ofList ((Outline.block header contents).text step))) =
      ((b.feed ids { text := opening header, line := 1 }).feedOutlines ids step 1 2 contents).close := by
  have whole := Outline.isWhole_of_mem_lines hstep 0 _ h
  have last : ((Outline.block header contents).lines step 0).getLast? ≠ some [] := by
    rw [Outline.lines, ← List.cons_append, List.getLast?_append]
    simp [Outline.indented]
  rw [Outline.text, tokenize_lines whole last, feedAll_block hstep h.1]

end Builder

end Blueprint.Dsl
