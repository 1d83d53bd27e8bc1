/-
  Blueprint.Proofs.Dsl.Tokens — the statements of a document that is written in lines.

  A line is flat if its quotes end in it and no brace stands outside them. A flat line that begins with a
  letter and does not end in a blank, a backslash or an opening brace is one statement, and so it is with
  an opening brace behind it. Such lines neither open a comment nor go on in the next line.

  Proved: behind a flat text, cutting goes on as if nothing had been there but the text (`cut_flat`); a
  document of lines that stand for themselves has the statements of its lines (`tokenize_lines`).
-/

import Blueprint.Dsl.Outline
import Blueprint.Dsl.Statement
import Blueprint.Proofs.Dsl.Arguments
import Blueprint.Proofs.Text.Lines

namespace Blueprint.Dsl

open Text

/-! ## Flat texts -/

/-- Where quoting stands behind a text; none if a brace stands outside quotes. -/
def Quoting.behind? (q : Quoting) : List Char → Option Quoting
  | [] => some q
  | c :: cs => if q = .outside ∧ (c = '{' ∨ c = '}') then none else (q.next c).behind? cs

def IsFlat (cs : List Char) : Prop := Quoting.outside.behind? cs = some .outside

instance (cs : List Char) : Decidable (IsFlat cs) := inferInstanceAs (Decidable (_ = _))

namespace Quoting

theorem behind?_append (q : Quoting) (cs ds : List Char) :
    q.behind? (cs ++ ds) = (q.behind? cs).bind fun r => r.behind? ds := by
  induction cs generalizing q with
  | nil => rfl
  | cons c cs ih =>
    rw [List.cons_append, behind?, behind?]
    split
    · rfl
    · exact ih _

theorem inside_behind?_escape {cs : List Char} (h : IsClean cs) : inside.behind? (escape cs) = some inside := by
  fun_induction escape cs with
  | case1 => rfl
  | case2 cs ih => exact ih h.tail
  | case3 cs ih => exact ih h.tail
  | case4 c cs notQuote _ ih =>
    have same : inside.next c = inside := by
      rw [next, if_neg h.head, if_neg (fun e => notQuote e)]
    rw [behind?, if_neg (by simp), same, ih h.tail]

end Quoting

theorem IsFlat.append {cs ds : List Char} (h : IsFlat cs) (h' : IsFlat ds) : IsFlat (cs ++ ds) := by
  rw [IsFlat, Quoting.behind?_append, h]
  exact h'

theorem isFlat_quote {cs : List Char} (h : IsClean cs) : IsFlat (quote cs) := by
  have closed : Quoting.inside.behind? (escape cs ++ ['"']) = some .outside := by
    rw [Quoting.behind?_append, Quoting.inside_behind?_escape h]
    rfl
  exact closed

theorem isFlat_arguments {values : List String} (h : AllClean values) : IsFlat (arguments values) := by
  induction values with
  | nil => rfl
  | cons v vs ih =>
    obtain ⟨clean, rest⟩ := allClean_cons.1 h
    have blank : IsFlat [' '] := rfl
    exact blank.append ((isFlat_quote clean).append (ih rest))

/-- The text has neither quotes nor braces. -/
def IsBare (cs : List Char) : Prop := ∀ c ∈ cs, c ≠ '"' ∧ c ≠ '{' ∧ c ≠ '}'

instance (cs : List Char) : Decidable (IsBare cs) := List.decidableBAll _ cs

theorem IsBare.append {cs ds : List Char} (h : IsBare cs) (h' : IsBare ds) : IsBare (cs ++ ds) :=
  List.forall_mem_append.2 ⟨h, h'⟩

theorem IsBare.flat {cs : List Char} (h : IsBare cs) : IsFlat cs := by
  induction cs with
  | nil => rfl
  | cons c cs ih =>
    obtain ⟨notQuote, notOpening, notClosing⟩ := h c List.mem_cons_self
    rw [IsFlat, Quoting.behind?, if_neg (by simp [notOpening, notClosing]), Quoting.next, if_neg notQuote]
    exact ih fun d hd => h d (List.mem_cons_of_mem _ hd)

theorem isBare_of_blank {cs : List Char} (h : ∀ c ∈ cs, isBlank c = true) : IsBare cs := by
  intro c hc
  have blank := h c hc
  refine ⟨?_, ?_, ?_⟩ <;> rintro rfl <;> exact absurd blank (by decide)

theorem cut_behind {q r : Quoting} {cs : List Char} (h : q.behind? cs = some r) (current ds : List Char) :
    cut q current (cs ++ ds) = cut r (cs.reverse ++ current) ds := by
  induction cs generalizing q current with
  | nil => cases h; rfl
  | cons c cs ih =>
    rw [Quoting.behind?] at h
    split at h
    · cases h
    · next plain =>
      have notOpening : ¬ (q = .outside ∧ c = '{') := fun both => plain ⟨both.1, .inl both.2⟩
      have notClosing : ¬ (q = .outside ∧ c = '}') := fun both => plain ⟨both.1, .inr both.2⟩
      rw [List.cons_append, cut, if_neg notOpening, if_neg notClosing, ih h, List.reverse_cons, List.append_assoc]
      rfl

theorem cut_flat {cs : List Char} (h : IsFlat cs) (ds : List Char) :
    cutAtBraces (cs ++ ds) = cut .outside cs.reverse ds := by
  rw [cutAtBraces, cut_behind h, List.append_nil]

theorem part_of_trimmed {cs : List Char} (h : IsTrimmed cs) : part cs = [cs] := by
  obtain ⟨c, hc, _⟩ := h.head
  have nonempty : cs.isEmpty = false := by
    cases cs with
    | nil => cases hc
    | cons d ds => rfl
  rw [part, h.trim_eq, nonempty]
  rfl

/-! ## Lines that are statements -/

/-- What a line may end in so that nothing is trimmed, goes on or opens there. -/
def mayEnd (c : Char) : Bool := !isBlank c && c != '\\' && c != '{'

/-- A line that is one statement, and the header of a block. -/
structure Solid (line : List Char) : Prop where
  first : ∃ c, line.head? = some c ∧ isAsciiLetter c = true
  last : ∃ c, line.getLast? = some c ∧ mayEnd c = true
  unbroken : IsUnbroken line
  flat : IsFlat line

instance (line : List Char) : Decidable (Solid line) :=
  decidable_of_iff (line.head?.any isAsciiLetter = true ∧ line.getLast?.any mayEnd = true ∧ IsUnbroken line ∧
    IsFlat line)
    ⟨fun ⟨a, b, c, d⟩ => ⟨(Option.any_eq_true _ _).1 a, (Option.any_eq_true _ _).1 b, c, d⟩,
      fun ⟨a, b, c, d⟩ => ⟨(Option.any_eq_true _ _).2 a, (Option.any_eq_true _ _).2 b, c, d⟩⟩

theorem letter_not_blank {c : Char} (h : isAsciiLetter c = true) : isBlank c = false :=
  not_isBlank_of_isKeyChar (by simp [isKeyChar, isAsciiAlphanumeric, h])

theorem mayEnd_iff {c : Char} : mayEnd c = true ↔ isBlank c = false ∧ c ≠ '\\' ∧ c ≠ '{' := by
  simp [mayEnd, and_assoc]

/-- A line that begins with a letter is neither a directive nor a comment. -/
theorem live?_of_letter {line : List Char} {c : Char} (hc : line.head? = some c) (letter : isAsciiLetter c = true) :
    live? line = some (line, false) := by
  obtain ⟨cs, rfl⟩ := List.head?_eq_some_iff.1 hc
  have notBang : c ≠ '!' := ne_of_class letter rfl
  have notHash : c ≠ '#' := ne_of_class letter rfl
  have notSlash : c ≠ '/' := ne_of_class letter rfl
  simp [live?, isComment, List.isPrefixOf, notBang.symm, notHash.symm, notSlash.symm]

/-- A flat text that begins with a letter is one statement with the brace that opens its block. -/
theorem statementsOf_header {text : List Char} (first : ∃ c, text.head? = some c ∧ isAsciiLetter c = true)
    (flat : IsFlat text) (n : Nat) : statementsOf n (text ++ ['{']) = [{ text := text ++ ['{'], line := n }] := by
  obtain ⟨c, hc, letter⟩ := first
  have head : (text ++ ['{']).head? = some c := by rw [List.head?_append, hc]; rfl
  have trimmed : IsTrimmed (text ++ ['{']) :=
    ⟨⟨c, head, letter_not_blank letter⟩, ⟨'{', List.getLast?_concat, by decide⟩⟩
  have parts : cutAtBraces (text ++ ['{']) = [text ++ ['{']] := by
    rw [cut_flat flat, cut, if_pos ⟨rfl, rfl⟩, List.reverse_cons, List.reverse_reverse, part_of_trimmed trimmed]
    rfl
  rw [statementsOf, live?_of_letter head letter]
  simp only [parts, List.map_singleton]

/-- A header with its opening brace. -/
def opening (header : List Char) : List Char := header ++ [' ', '{']

namespace Solid

variable {line : List Char}

theorem trimmed (h : Solid line) : IsTrimmed line := by
  obtain ⟨c, hc, letter⟩ := h.first
  obtain ⟨d, hd, ending⟩ := h.last
  exact ⟨⟨c, hc, letter_not_blank letter⟩, ⟨d, hd, (mayEnd_iff.1 ending).1⟩⟩

theorem live (h : Solid line) (rest : List Char) : live? (line ++ rest) = some (line ++ rest, false) := by
  obtain ⟨c, hc, letter⟩ := h.first
  exact live?_of_letter (by rw [List.head?_append, hc]; rfl) letter

theorem cutAtBraces_eq (h : Solid line) : cutAtBraces line = [line] := by
  have cut := cut_flat h.flat []
  rw [List.append_nil] at cut
  rw [cut, Dsl.cut, List.reverse_reverse, part_of_trimmed h.trimmed]

theorem statements (h : Solid line) (n : Nat) : statementsOf n line = [{ text := line, line := n }] := by
  have live := h.live []
  rw [List.append_nil] at live
  rw [statementsOf, live]
  simp only [h.cutAtBraces_eq, List.map_cons, List.map_nil]

theorem trimmed_opening (h : Solid line) : IsTrimmed (opening line) := by
  obtain ⟨c, hc, notBlank⟩ := h.trimmed.head
  refine ⟨⟨c, ?_, notBlank⟩, ⟨'{', ?_, rfl⟩⟩
  · rw [opening, List.head?_append, hc]
    rfl
  · rw [opening, List.getLast?_append]
    rfl

theorem statements_opening (h : Solid line) (n : Nat) :
    statementsOf n (opening line) = [{ text := opening line, line := n }] := by
  obtain ⟨c, hc, letter⟩ := h.first
  have first : (line ++ [' ']).head? = some c := by rw [List.head?_append, hc]; rfl
  have flat : IsFlat (line ++ [' ']) := h.flat.append rfl
  have header := statementsOf_header ⟨c, first, letter⟩ flat n
  rwa [List.append_assoc] at header

end Solid

/-! ## Lines in a row -/

/-- A line that stands for itself: it opens no comment and does not go on in the next one. -/
structure IsWhole (line : List Char) : Prop where
  unbroken : IsUnbroken line
  noComment : "/*".toList.isPrefixOf (trim line) = false
  noJoin : (trim line).getLast? ≠ some '\\'

/-- The statements of lines that stand for themselves, numbered from `n`. -/
def statementsAt (n : Nat) : List (List Char) → List Statement
  | [] => []
  | l :: ls => statementsOf n (trim l) ++ statementsAt (n + 1) ls

theorem statementsAt_append (n : Nat) (ls ms : List (List Char)) :
    statementsAt n (ls ++ ms) = statementsAt n ls ++ statementsAt (n + ls.length) ms := by
  induction ls generalizing n with
  | nil => rfl
  | cons l ls ih =>
    rw [List.cons_append, statementsAt, statementsAt, ih, List.append_assoc, List.length_cons]
    congr 3
    omega

theorem Gathering.run_whole {ls : List (List Char)} (h : ∀ l ∈ ls, IsWhole l) (start n : Nat) :
    ((Gathering.mk [] start false).run n ls).flatMap (fun l => statementsOf l.1 l.2) = statementsAt n ls := by
  induction ls generalizing start n with
  | nil => rfl
  | cons l ls ih =>
    obtain ⟨_, noComment, noJoin⟩ := h l List.mem_cons_self
    have step : (Gathering.mk [] start false).step n l = (⟨[], n, false⟩, [(n, trim l)]) := by
      simp only [Gathering.step, leaveComment, noComment, Bool.false_eq_true, if_false, join, noJoin,
        List.isEmpty_nil,
        if_true, List.nil_append]
    rw [run, step, statementsAt, ← ih (fun m hm => h m (List.mem_cons_of_mem _ hm)) n (n + 1)]
    rfl

theorem tokenize_lines {ls : List (List Char)} (h : ∀ l ∈ ls, IsWhole l) (last : ls.getLast? ≠ some []) :
    tokenize (String.ofList (['\n'].intercalate ls)) = statementsAt 1 ls := by
  rw [tokenize, joinedLines, String.toList_ofList, lines_intercalate (fun l hl => (h l hl).unbroken) last]
  exact Gathering.run_whole h 0 1

theorem statementsOf_closing (n : Nat) : statementsOf n ['}'] = [{ text := ['}'], line := n }] := rfl

end Blueprint.Dsl
