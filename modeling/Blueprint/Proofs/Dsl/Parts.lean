/-
  Blueprint.Proofs.Dsl.Parts — the parts of a line that is cut at its braces (`_split_at_braces`).

  A line is cut behind each opening brace and on both sides of each closing brace that stands outside quotes, and
  what lies between is trimmed. A cut is made outside quotes only, so a part is read the same on its own as within
  the line, and what is trimmed are blanks, which neither open quotes nor are braces.

  Proved: how a line is cut (`isCut_cut`); the parts are the line with nothing but blanks left out, each is trimmed,
  the braces outside quotes end them and there is one part for each, and each part is cut no further
  (`cutAtBraces_exact`).
-/

import Blueprint.Proofs.Dsl.Tokens
import Mathlib.Data.List.Chain

namespace Blueprint.Dsl

open Text

/-! ## Reading with quotes -/

namespace Quoting

/-- Where quoting stands behind a text, whatever braces are in it. -/
def behind (q : Quoting) (cs : List Char) : Quoting := cs.foldl Quoting.next q

/-- The characters that stand outside quotes, and the quotes that open. -/
def unquoted (q : Quoting) : List Char → List Char
  | [] => []
  | c :: cs => if q = .outside then c :: (q.next c).unquoted cs else (q.next c).unquoted cs

variable {q r : Quoting} {cs ds : List Char}

theorem unquoted_append (q : Quoting) (cs ds : List Char) :
    q.unquoted (cs ++ ds) = q.unquoted cs ++ (q.behind cs).unquoted ds := by
  induction cs generalizing q with
  | nil => rfl
  | cons c cs ih =>
    rw [List.cons_append, unquoted, unquoted, ih]
    split <;> rfl

theorem behind_of_behind? (h : q.behind? cs = some r) : q.behind cs = r := by
  induction cs generalizing q with
  | nil => exact Option.some.inj h
  | cons c cs ih =>
    rw [behind?] at h
    split at h
    · cases h
    · exact ih h

theorem behind?_of_append (h : (q.behind? (cs ++ ds)).isSome = true) : (q.behind? cs).isSome = true := by
  rw [behind?_append] at h
  exact Option.isSome_of_isSome_bind h

/-- Without a brace outside quotes, none is read there. -/
theorem not_brace_of_behind? (h : (q.behind? cs).isSome = true) {c : Char} (known : c ∈ q.unquoted cs) :
    c ≠ '{' ∧ c ≠ '}' := by
  induction cs generalizing q with
  | nil => cases known
  | cons d cs ih =>
    rw [behind?] at h
    rw [unquoted] at known
    split at h
    · cases h
    · next plain =>
      split at known
      · next outside =>
        rcases List.mem_cons.1 known with rfl | later
        · exact ⟨fun e => plain ⟨outside, .inl e⟩, fun e => plain ⟨outside, .inr e⟩⟩
        · exact ih h later
      · exact ih h known

end Quoting

/-- No brace stands outside quotes; they may be left open. -/
def IsPlain (cs : List Char) : Prop := (Quoting.outside.behind? cs).isSome = true

instance (cs : List Char) : Decidable (IsPlain cs) := inferInstanceAs (Decidable (_ = _))

/-- An opening brace stands at the end, outside quotes. -/
def endsOpening (cs : List Char) : Bool :=
  cs.getLast? == some '{' && Quoting.outside.behind cs.dropLast == .outside

theorem IsFlat.plain {cs : List Char} (h : IsFlat cs) : IsPlain cs := by rw [IsPlain, h]; rfl

theorem IsFlat.behind {cs : List Char} (h : IsFlat cs) : Quoting.outside.behind cs = .outside :=
  Quoting.behind_of_behind? h

theorem isFlat_of_blank {cs : List Char} (h : ∀ c ∈ cs, isBlank c = true) : IsFlat cs := (isBare_of_blank h).flat

variable {line t p front back : List Char} {ps : List (List Char)} {brace : Char}

namespace IsPlain

theorem not_brace_unquoted (h : IsPlain t) (known : brace ∈ Quoting.outside.unquoted t) :
    brace ≠ '{' ∧ brace ≠ '}' := Quoting.not_brace_of_behind? h known

theorem not_brace (h : IsPlain (front ++ brace :: back)) (unquoted : Quoting.outside.behind front = .outside) :
    brace ≠ '{' ∧ brace ≠ '}' := by
  apply h.not_brace_unquoted
  rw [Quoting.unquoted_append, unquoted, Quoting.unquoted, if_pos rfl]
  exact List.mem_append_right _ List.mem_cons_self

theorem not_endsOpening (h : IsPlain t) : endsOpening t = false := by
  rw [endsOpening, Bool.and_eq_false_iff, beq_eq_false_iff_ne, beq_eq_false_iff_ne]
  by_contra both
  simp only [not_or, not_not] at both
  obtain ⟨last, unquoted⟩ := both
  obtain ⟨front, rfl⟩ := List.getLast?_eq_some_iff.1 last
  rw [List.dropLast_concat] at unquoted
  exact (h.not_brace unquoted).1 rfl

end IsPlain

/-! ## What is trimmed -/

theorem mem_part : p ∈ part t ↔ p = trim t ∧ trim t ≠ [] := by
  rw [part]
  cases trim t <;> simp

theorem isTrimmed_of_mem_part (h : p ∈ part t) : IsTrimmed p := by
  obtain ⟨rfl, nonempty⟩ := mem_part.1 h
  exact isTrimmed_trim nonempty

theorem IsPlain.of_mem_part (h : IsPlain t) (known : p ∈ part t) : IsPlain p := by
  obtain ⟨rfl, _⟩ := mem_part.1 known
  obtain ⟨before, behind, blank, _, text⟩ := exists_trim t
  rw [IsPlain, text, Quoting.behind?_append, isFlat_of_blank blank] at h
  exact Quoting.behind?_of_append h

/-- A text that ends in an opening brace ends in it when it is trimmed, too. -/
theorem exists_part_opening (flat : IsFlat t) :
    ∃ u, IsFlat u ∧ IsTrimmed (u ++ ['{']) ∧ part (t ++ ['{']) = [u ++ ['{']] := by
  have text : t = t.takeWhile isBlank ++ trimLeft t := List.takeWhile_append_dropWhile.symm
  have blank := blank_takeWhile t
  have trimmed : IsTrimmed (trimLeft t ++ ['{']) := by
    refine ⟨?_, '{', List.getLast?_concat, by decide⟩
    cases rest : trimLeft t with
    | nil => exact ⟨'{', rfl, by decide⟩
    | cons c cs =>
      have first : (trimLeft t).head? = some c := by rw [rest]; rfl
      exact ⟨c, rfl, head?_trimLeft first⟩
  refine ⟨trimLeft t, ?_, trimmed, ?_⟩
  · rw [text, IsFlat, Quoting.behind?_append, isFlat_of_blank blank] at flat
    exact flat
  · have cut : trim (t ++ ['{']) = trimLeft t ++ ['{'] := by
      conv_lhs => rw [text, List.append_assoc]
      exact trimmed.trim_append blank
    rw [part, cut]
    cases trimLeft t <;> rfl

/-! ## No part for a brace where there is none -/

namespace IsPlain

theorem countP_part (h : IsPlain t) : (part t).countP endsOpening = 0 :=
  List.countP_eq_zero.2 fun _ known => by rw [(h.of_mem_part known).not_endsOpening]; decide

theorem count_part (h : IsPlain t) : (part t).count ['}'] = 0 :=
  List.count_eq_zero.2 fun known => by
    have plain := h.of_mem_part known
    exact absurd plain (by decide)

theorem count_unquoted (h : IsPlain t) (isBrace : brace = '{' ∨ brace = '}') :
    (Quoting.outside.unquoted t).count brace = 0 :=
  List.count_eq_zero.2 fun known => absurd isBrace (not_or.2 (h.not_brace_unquoted known))

end IsPlain

theorem IsFlat.count_unquoted_append (h : IsFlat t) (isBrace : brace = '{' ∨ brace = '}') (cs : List Char) :
    (Quoting.outside.unquoted (t ++ cs)).count brace = (Quoting.outside.unquoted cs).count brace := by
  rw [Quoting.unquoted_append, List.count_append, h.plain.count_unquoted isBrace, h.behind, Nat.zero_add]

/-! ## How a line is cut -/

/-- The parts of a line between its braces outside quotes. -/
inductive IsCut : List Char → List (List Char) → Prop
  | rest {t : List Char} : IsPlain t → IsCut t (part t)
  | opening {t cs : List Char} {ps : List (List Char)} :
      IsFlat t → IsCut cs ps → IsCut (t ++ '{' :: cs) (part (t ++ ['{']) ++ ps)
  | closing {t cs : List Char} {ps : List (List Char)} :
      IsFlat t → IsCut cs ps → IsCut (t ++ '}' :: cs) (part t ++ ['}'] :: ps)

/-- What was read of the current part stands before what is still to come. -/
theorem isCut_cut {q : Quoting} (current : List Char) (h : Quoting.outside.behind? current.reverse = some q)
    (cs : List Char) : IsCut (current.reverse ++ cs) (cut q current cs) := by
  induction cs generalizing q current with
  | nil =>
    rw [List.append_nil, cut]
    exact .rest (by rw [IsPlain, h]; rfl)
  | cons c cs ih =>
    rw [cut]
    split
    · next opens =>
      obtain ⟨rfl, rfl⟩ := opens
      rw [List.reverse_cons]
      exact .opening h (ih [] rfl)
    · split
      · next closes =>
        obtain ⟨rfl, rfl⟩ := closes
        exact .closing h (ih [] rfl)
      · next notOpening notClosing =>
        have more : Quoting.outside.behind? (c :: current).reverse = some (q.next c) := by
          rw [List.reverse_cons, Quoting.behind?_append, h, Option.bind_some, Quoting.behind?, if_neg]
          · rfl
          · rintro ⟨outside, e | e⟩
            · exact notOpening ⟨outside, e⟩
            · exact notClosing ⟨outside, e⟩
        have later := ih (c :: current) more
        rwa [List.reverse_cons, List.append_assoc, List.singleton_append] at later

theorem isCut_cutAtBraces (line : List Char) : IsCut line (cutAtBraces line) := isCut_cut [] rfl line

/-! ## The sorts of parts -/

/-- A part has no brace outside quotes, or one at its end, or is one. -/
inductive IsPart : List Char → Prop
  | plain {p : List Char} : IsTrimmed p → IsPlain p → IsPart p
  | opening {u : List Char} : IsTrimmed (u ++ ['{']) → IsFlat u → IsPart (u ++ ['{'])
  | closing : IsPart ['}']

theorem IsFlat.endsOpening_concat {u : List Char} (h : IsFlat u) : endsOpening (u ++ ['{']) = true := by
  rw [endsOpening, List.getLast?_concat, List.dropLast_concat, h.behind]
  rfl

namespace IsPart

theorem of_mem_part (plain : IsPlain t) (h : p ∈ part t) : IsPart p :=
  .plain (isTrimmed_of_mem_part h) (plain.of_mem_part h)

theorem trimmed (h : IsPart p) : IsTrimmed p := by
  cases h with
  | plain trimmed _ => exact trimmed
  | opening trimmed _ => exact trimmed
  | closing => exact ⟨⟨'}', rfl, by decide⟩, '}', rfl, by decide⟩

/-- A brace outside quotes stands at the end of the part, and a closing one at its beginning as well. -/
theorem brace_last (h : IsPart (front ++ brace :: back)) (isBrace : brace = '{' ∨ brace = '}')
    (unquoted : Quoting.outside.behind front = .outside) : back = [] ∧ (brace = '}' → front = []) := by
  generalize whole : front ++ brace :: back = p at h
  cases h with
  | plain _ plain =>
    rw [← whole] at plain
    have none := plain.not_brace unquoted
    exact absurd isBrace (not_or.2 none)
  | @opening u _ flat =>
    cases List.eq_nil_or_concat back with
    | inl nothing =>
      subst nothing
      obtain ⟨_, last⟩ := List.append_inj' whole rfl
      refine ⟨rfl, fun e => ?_⟩
      rw [e] at last
      exact absurd last (by decide)
    | inr more =>
      -- the brace stands before the last one, where there is none
      obtain ⟨inner, c, rfl⟩ := more
      rw [List.concat_eq_append, ← List.cons_append, ← List.append_assoc] at whole
      obtain ⟨earlier, _⟩ := List.append_inj' whole rfl
      have plain := flat.plain
      rw [← earlier] at plain
      exact absurd isBrace (not_or.2 (plain.not_brace unquoted))
  | closing =>
    obtain rfl : front = [] := by
      cases front with
      | nil => rfl
      | cons c cs => simp at whole
    exact ⟨(List.cons.inj whole).2, fun _ => rfl⟩

/-- A part is cut no further. -/
theorem cutAtBraces_eq (h : IsPart p) : cutAtBraces p = [p] := by
  cases h with
  | plain trimmed plain =>
    obtain ⟨q, left⟩ := Option.isSome_iff_exists.1 plain
    have cut := cut_behind left [] []
    rw [List.append_nil, List.append_nil] at cut
    rw [cutAtBraces, cut, Dsl.cut, List.reverse_reverse, part_of_trimmed trimmed]
  | opening trimmed flat =>
    rw [cut_flat flat, Dsl.cut, if_pos ⟨rfl, rfl⟩, List.reverse_cons, List.reverse_reverse, part_of_trimmed trimmed]
    rfl
  | closing => rfl

end IsPart

/-! ## What the parts are -/

/-- The line is its parts in order, with blanks before, between and behind them. -/
inductive IsSpaced : List (List Char) → List Char → Prop
  | blanks {cs : List Char} : (∀ c ∈ cs, isBlank c = true) → IsSpaced [] cs
  | part {before p cs : List Char} {ps : List (List Char)} :
      (∀ c ∈ before, isBlank c = true) → IsSpaced ps cs → IsSpaced (p :: ps) (before ++ (p ++ cs))

/-- The parts are the line, cut at each brace outside quotes and nowhere else. -/
structure IsExactCut (line : List Char) (parts : List (List Char)) : Prop where
  spaced : IsSpaced parts line
  trimmed : ∀ p ∈ parts, IsTrimmed p
  opening : ∀ front back, front ++ '{' :: back ∈ parts → Quoting.outside.behind front = .outside → back = []
  closing : ∀ front back, front ++ '}' :: back ∈ parts → Quoting.outside.behind front = .outside →
    front = [] ∧ back = []
  openings : parts.countP endsOpening = (Quoting.outside.unquoted line).count '{'
  closings : parts.count ['}'] = (Quoting.outside.unquoted line).count '}'
  atBraces : parts.IsChain fun p q => endsOpening p = true ∨ p = ['}'] ∨ q = ['}']

namespace IsSpaced

/-- More blanks in front belong to those that are there. -/
theorem blank_append {blanks : List Char} (blank : ∀ c ∈ blanks, isBlank c = true) (h : IsSpaced ps line) :
    IsSpaced ps (blanks ++ line) := by
  cases h with
  | blanks rest => exact .blanks (List.forall_mem_append.2 ⟨blank, rest⟩)
  | part before rest =>
    rw [← List.append_assoc]
    exact .part (List.forall_mem_append.2 ⟨blank, before⟩) rest

theorem part_append (t : List Char) (h : IsSpaced ps line) : IsSpaced (Dsl.part t ++ ps) (t ++ line) := by
  obtain ⟨before, behind, blankBefore, blankBehind, text⟩ := exists_trim t
  by_cases nonempty : trim t = []
  · have none : Dsl.part t = [] := by rw [Dsl.part, nonempty]; rfl
    have blank : ∀ c ∈ t, isBlank c = true := by
      rw [text, nonempty]
      exact List.forall_mem_append.2 ⟨blankBefore, blankBehind⟩
    rw [none]
    exact h.blank_append blank
  · have one : Dsl.part t = [trim t] := by
      rw [Dsl.part]
      exact if_neg (by simpa using nonempty)
    have whole : t ++ line = before ++ (trim t ++ (behind ++ line)) := by
      conv_lhs => rw [text, List.append_assoc, List.append_assoc]
    rw [one, whole]
    exact .part blankBefore (h.blank_append blankBehind)

end IsSpaced

namespace IsCut

theorem spaced (h : IsCut line ps) : IsSpaced ps line := by
  induction h with
  | @rest t _ =>
    have last := IsSpaced.part_append t (.blanks (List.forall_mem_nil _))
    rwa [List.append_nil, List.append_nil] at last
  | @opening t cs ps _ _ ih =>
    have first := IsSpaced.part_append (t ++ ['{']) ih
    rwa [List.append_assoc, List.singleton_append] at first
  | @closing t cs ps _ _ ih => exact IsSpaced.part_append t (IsSpaced.part_append ['}'] ih)

theorem isPart (h : IsCut line ps) (known : p ∈ ps) : IsPart p := by
  induction h with
  | rest plain => exact .of_mem_part plain known
  | opening flat _ ih =>
    obtain ⟨u, flat, trimmed, one⟩ := exists_part_opening flat
    rw [one] at known
    rcases List.mem_cons.1 known with rfl | later
    · exact .opening trimmed flat
    · exact ih later
  | closing flat _ ih =>
    rcases List.mem_append.1 known with first | later
    · exact .of_mem_part flat.plain first
    · rcases List.mem_cons.1 later with rfl | later
      · exact .closing
      · exact ih later

theorem openings (h : IsCut line ps) :
    ps.countP endsOpening = (Quoting.outside.unquoted line).count '{' := by
  induction h with
  | rest plain => rw [plain.countP_part, plain.count_unquoted (.inl rfl)]
  | opening flat _ ih =>
    obtain ⟨u, flatEnd, _, one⟩ := exists_part_opening flat
    rw [one, List.singleton_append, List.countP_cons_of_pos flatEnd.endsOpening_concat, ih,
      flat.count_unquoted_append (.inl rfl), Quoting.unquoted, if_pos rfl, List.count_cons_self]
    rfl
  | closing flat _ ih =>
    rw [List.countP_append, flat.plain.countP_part, List.countP_cons_of_neg (by decide), ih,
      flat.count_unquoted_append (.inl rfl), Quoting.unquoted, if_pos rfl, List.count_cons_of_ne (by decide),
      Nat.zero_add]
    rfl

theorem closings (h : IsCut line ps) : ps.count ['}'] = (Quoting.outside.unquoted line).count '}' := by
  induction h with
  | rest plain => rw [plain.count_part, plain.count_unquoted (.inr rfl)]
  | opening flat _ ih =>
    obtain ⟨u, _, _, one⟩ := exists_part_opening flat
    have other : u ++ ['{'] ≠ ['}'] := fun e => by
      have last := congrArg List.getLast? e
      rw [List.getLast?_concat] at last
      exact absurd last (by decide)
    rw [one, List.singleton_append, List.count_cons_of_ne other, ih,
      flat.count_unquoted_append (.inr rfl), Quoting.unquoted, if_pos rfl, List.count_cons_of_ne (by decide)]
    rfl
  | closing flat _ ih =>
    rw [List.count_append, flat.plain.count_part, List.count_cons_self, ih,
      flat.count_unquoted_append (.inr rfl), Quoting.unquoted, if_pos rfl, List.count_cons_self, Nat.zero_add]
    rfl

theorem atBraces (h : IsCut line ps) :
    ps.IsChain fun p q => endsOpening p = true ∨ p = ['}'] ∨ q = ['}'] := by
  induction h with
  | rest _ =>
    rw [part]
    split
    · exact .nil
    · exact .singleton _
  | opening flat _ ih =>
    obtain ⟨u, flatEnd, _, one⟩ := exists_part_opening flat
    rw [one]
    exact List.isChain_cons.2 ⟨fun _ _ => .inl flatEnd.endsOpening_concat, ih⟩
  | closing _ _ ih =>
    have later := List.isChain_cons.2 ⟨fun _ _ => .inr (.inl rfl), ih⟩
    rw [part]
    split
    · exact later
    · refine List.isChain_cons.2 ⟨fun q first => .inr (.inr ?_), later⟩
      exact (Option.some.inj first).symm

end IsCut

/-- A line is cut at each brace outside quotes and nowhere else, and no part of it is cut any further. -/
theorem cutAtBraces_exact (line : List Char) :
    IsExactCut line (cutAtBraces line) ∧ ∀ p ∈ cutAtBraces line, cutAtBraces p = [p] := by
  have cut := isCut_cutAtBraces line
  refine ⟨?_, fun p known => (cut.isPart known).cutAtBraces_eq⟩
  exact
    { spaced := cut.spaced
      trimmed := fun p known => (cut.isPart known).trimmed
      opening := fun front back known unquoted => ((cut.isPart known).brace_last (.inl rfl) unquoted).1
      closing := fun front back known unquoted =>
        have last := (cut.isPart known).brace_last (.inr rfl) unquoted
        ⟨last.2 rfl, last.1⟩
      openings := cut.openings
      closings := cut.closings
      atBraces := cut.atBraces }

example : (cutAtBraces "a \"\x7b\" \x7b b c\x7d ".toList).map String.ofList = ["a \"\x7b\" \x7b", "b c", "\x7d"] := by
  decide +kernel

end Blueprint.Dsl
