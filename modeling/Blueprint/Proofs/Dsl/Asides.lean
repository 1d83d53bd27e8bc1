/-
  Blueprint.Proofs.Dsl.Asides — lines that say nothing (what `tokenize` leaves out).

  Blank lines, directives, comments that record no position and whole block comments are asides: a reader
  goes over them, and the lines behind them come with higher numbers. That is so between any two lines, but not
  within a block comment, and not behind a line that goes on in the next one. Lines are trimmed before anything
  else, so a line goes on if nothing but blanks stand behind the backslash, and such a comment takes the next line
  with it.

  Proved: what is read of some lines depends on those in front of them only through the state that is left
  (`run_append`), and on their numbers only in the numbers that it has (`Below.run`); behind an aside no block
  comment is open and no line goes on, and nothing of it is live (`passesOver_aside`). So a document is read the same
  with an aside as without it, but for the numbers of lines (`parse_aside`). That a comment does not end in a
  backslash is not enough for that (`not_tokenize_trailingBlank`).
-/

import Blueprint.Proofs.Dsl.LineNumbers
import Blueprint.Proofs.Dsl.Soundness
import Blueprint.Proofs.Identifier.Source
import Blueprint.Proofs.Text.Lines

namespace Blueprint

open Text

namespace Dsl

/-! ## Reading some of the lines -/

namespace Gathering

variable {g h : Gathering} {k n : Nat} {ls : List (List Char)}

/-- The state behind some lines, and the joined lines that are complete by then. -/
def gather (g : Gathering) (number : Nat) : List (List Char) → Gathering × List (Nat × List Char)
  | [] => (g, [])
  | raw :: rest =>
    let (g, joined) := g.step number raw
    let (g, more) := gather g (number + 1) rest
    (g, joined ++ more)

theorem gather_cons (g : Gathering) (n : Nat) (raw : List Char) (rest : List (List Char)) :
    g.gather n (raw :: rest) = (((g.step n raw).1.gather (n + 1) rest).1,
      (g.step n raw).2 ++ ((g.step n raw).1.gather (n + 1) rest).2) := rfl

theorem run_cons (g : Gathering) (n : Nat) (raw : List Char) (rest : List (List Char)) :
    g.run n (raw :: rest) = (g.step n raw).2 ++ (g.step n raw).1.run (n + 1) rest := rfl

theorem run_append (g : Gathering) (n : Nat) (ls ms : List (List Char)) :
    g.run n (ls ++ ms) = (g.gather n ls).2 ++ (g.gather n ls).1.run (n + ls.length) ms := by
  induction ls generalizing g n with
  | nil => rfl
  | cons l ls ih =>
    rw [List.cons_append, run_cons, gather_cons, ih, List.length_cons, List.append_assoc, Nat.add_assoc,
      Nat.add_comm 1]

theorem run_eq (g : Gathering) (n : Nat) (ls : List (List Char)) :
    g.run n ls = (g.gather n ls).2 ++ (g.gather n ls).1.finish := by
  have whole := run_append g n ls []
  rwa [List.append_nil] at whole

/-! ## Numbers -/

/-- Where a line begins that is joined: on its own line, or where what is pending began. -/
def startAt (g : Gathering) (number : Nat) : Nat := if g.pending.isEmpty then number else g.start

theorem join_eq (g : Gathering) (n : Nat) (line : List Char) :
    g.join n line =
      if line.getLast? = some '\\' then
        ({ pending := g.pending ++ trimRight line.dropLast ++ [' '], start := g.startAt n }, [])
      else ({ start := g.startAt n }, [(g.startAt n, g.pending ++ line)]) := rfl

theorem startAt_of_nil (empty : g.pending = []) (n : Nat) : g.startAt n = n := by
  rw [startAt, empty]
  rfl

theorem startAt_of_ne_nil (more : g.pending ≠ []) (n : Nat) : g.startAt n = g.start := if_neg (by simpa using more)

/-- What is pending began on a line with a number of this sort. -/
def StartsIn (P : Nat → Prop) (g : Gathering) : Prop := g.pending ≠ [] → P g.start

variable {P : Nat → Prop}

theorem join_forall (h : g.StartsIn P) (here : P n) (line : List Char) :
    (g.join n line).1.StartsIn P ∧ ∀ l ∈ (g.join n line).2, P l.1 := by
  have start : P (g.startAt n) := by
    by_cases empty : g.pending = []
    · rw [startAt_of_nil empty]
      exact here
    · rw [startAt_of_ne_nil empty]
      exact h empty
  rw [join_eq]
  split
  · exact ⟨fun _ => start, List.forall_mem_nil _⟩
  · exact ⟨fun more => absurd rfl more, List.forall_mem_singleton.2 start⟩

theorem step_forall (h : g.StartsIn P) (here : P n) (raw : List Char) :
    (g.step n raw).1.StartsIn P ∧ ∀ l ∈ (g.step n raw).2, P l.1 := by
  unfold step
  split
  · exact ⟨h, List.forall_mem_nil _⟩
  · split
    · exact ⟨h, List.forall_mem_nil _⟩
    · exact join_forall h here _

theorem gather_forall (h : g.StartsIn P) (here : ∀ m, n ≤ m → m < n + ls.length → P m) :
    (g.gather n ls).1.StartsIn P ∧ ∀ l ∈ (g.gather n ls).2, P l.1 := by
  induction ls generalizing g n with
  | nil => exact ⟨h, List.forall_mem_nil _⟩
  | cons l ls ih =>
    rw [List.length_cons] at here
    obtain ⟨started, first⟩ := step_forall h (here n (Nat.le_refl n) (by omega)) l
    obtain ⟨later, more⟩ := ih (n := n + 1) started fun m above below => here m (by omega) (by omega)
    rw [gather_cons]
    exact ⟨later, List.forall_mem_append.2 ⟨first, more⟩⟩

theorem run_forall (h : g.StartsIn P) (here : ∀ m, n ≤ m → m < n + ls.length → P m) : ∀ l ∈ g.run n ls, P l.1 := by
  obtain ⟨started, all⟩ := gather_forall h here
  rw [run_eq]
  refine List.forall_mem_append.2 ⟨all, ?_⟩
  unfold finish
  split
  · exact List.forall_mem_nil _
  · next more => exact List.forall_mem_singleton.2 (started (by simpa using more))

/-! ## Further down -/

/-- The same state with the lines `k` further down. Where nothing is pending, it does not matter where that began. -/
structure Below (k : Nat) (g h : Gathering) : Prop where
  pending : h.pending = g.pending
  inComment : h.inComment = g.inComment
  start : g.pending ≠ [] → h.start = g.start + k

/-- A joined line, `k` lines further down. -/
def down (k : Nat) (l : Nat × List Char) : Nat × List Char := (l.1 + k, l.2)

namespace Below

theorem join (below : Below k g h) (n : Nat) (line : List Char) :
    Below k (g.join n line).1 (h.join (n + k) line).1 ∧ (h.join (n + k) line).2 = (g.join n line).2.map (down k) := by
  have start : h.startAt (n + k) = g.startAt n + k := by
    by_cases empty : g.pending = []
    · rw [startAt_of_nil empty, startAt_of_nil (below.pending.trans empty)]
    · rw [startAt_of_ne_nil empty, startAt_of_ne_nil (below.pending ▸ empty)]
      exact below.start empty
  rw [join_eq, join_eq, start, below.pending]
  split
  · exact ⟨⟨rfl, rfl, fun _ => rfl⟩, rfl⟩
  · exact ⟨⟨rfl, rfl, fun _ => rfl⟩, rfl⟩

theorem step (below : Below k g h) (n : Nat) (raw : List Char) :
    Below k (g.step n raw).1 (h.step (n + k) raw).1 ∧ (h.step (n + k) raw).2 = (g.step n raw).2.map (down k) := by
  unfold Gathering.step
  rw [below.inComment]
  split
  · exact ⟨below, rfl⟩
  · split
    · exact ⟨⟨below.pending, rfl, below.start⟩, rfl⟩
    · exact below.join n _

theorem run (below : Below k g h) (n : Nat) (ls : List (List Char)) :
    h.run (n + k) ls = (g.run n ls).map (down k) := by
  induction ls generalizing g h n with
  | nil =>
    rw [Gathering.run, Gathering.run, finish, finish, below.pending]
    split
    · rfl
    · next more =>
      have start := below.start (by simpa using more)
      rw [start]
      rfl
  | cons l ls ih =>
    obtain ⟨next, joined⟩ := below.step n l
    rw [run_cons, run_cons, joined, List.map_append, ← ih next, Nat.add_right_comm]

end Below

/-! ## Between lines -/

/-- No block comment is open, and no line goes on. -/
structure IsBetween (g : Gathering) : Prop where
  noPending : g.pending = []
  noComment : g.inComment = false

theorem IsBetween.below (between : g.IsBetween) (between' : h.IsBetween) (k : Nat) : Below k g h where
  pending := by rw [between.noPending, between'.noPending]
  inComment := by rw [between.noComment, between'.noComment]
  start more := absurd between.noPending more

/-- A line that begins no block comment and does not go on stands for itself. -/
theorem IsBetween.step (between : g.IsBetween) {raw : List Char} (noBlock : "/*".toList.isPrefixOf (trim raw) = false)
    (noJoin : (trim raw).getLast? ≠ some '\\') (n : Nat) : g.step n raw = ({ start := n }, [(n, trim raw)]) := by
  simp only [Gathering.step, leaveComment, between.noComment, noBlock, Bool.false_eq_true, if_false, join_eq, noJoin,
    between.noPending, startAt_of_nil between.noPending, List.nil_append]

end Gathering

/-! ## Asides -/

/-- The line begins a block comment. -/
def opensBlock (line : List Char) : Bool := "/*".toList.isPrefixOf (trim line)

/-- Lines that say nothing: a blank one, a directive, a comment that records no position, or a whole block comment,
which its first end mark ends together with a line. -/
inductive IsAside : List (List Char) → Prop
  | blank {line : List Char} : trim line = [] → IsAside [line]
  | directive {line : List Char} :
      "!".toList.isPrefixOf (trim line) = true → (trim line).getLast? ≠ some '\\' → IsAside [line]
  | comment {line : List Char} :
      isComment (trim line) = true → "element ".toList.isPrefixOf (trimLeft (dropMarks (trim line))) = false →
        (trim line).getLast? ≠ some '\\' → IsAside [line]
  | block {line : List Char} : opensBlock line = true → afterEndMark? (trim line) = some [] → IsAside [line]
  | blockOfLines {first last : List Char} {inner : List (List Char)} :
      opensBlock first = true → afterEndMark? (trim first) = none → (∀ line ∈ inner, afterEndMark? (trim line) = none) →
        afterEndMark? (trim last) = some [] → IsAside (first :: (inner ++ [last]))

namespace Gathering

variable {g : Gathering} {aside : List (List Char)} {line : List Char} {n : Nat}

/-- Nothing that is live comes of these lines, and they leave no block comment open and no line to go on. -/
def PassesOver (g : Gathering) (n : Nat) (aside : List (List Char)) : Prop :=
  (g.gather n aside).1.IsBetween ∧ ∀ l ∈ (g.gather n aside).2, live? l.2 = none

theorem passesOver_line (between : g.IsBetween) (noBlock : opensBlock line = false)
    (noJoin : (trim line).getLast? ≠ some '\\') (dead : live? (trim line) = none) : g.PassesOver n [line] := by
  rw [PassesOver, gather_cons, between.step noBlock noJoin]
  exact ⟨⟨rfl, rfl⟩, List.forall_mem_singleton.2 dead⟩

/-- The end mark ends the line as well: the rest is empty. -/
theorem join_nil (between : g.pending = []) (n : Nat) : g.join n [] = ({ start := n }, [(n, [])]) := by
  rw [join_eq, startAt_of_nil between, between]
  rfl

theorem passesOver_block (between : g.IsBetween) (opens : opensBlock line = true)
    (ends : afterEndMark? (trim line) = some []) : g.PassesOver n [line] := by
  have step : g.step n line = ({ start := n }, [(n, [])]) := by
    rw [← join_nil between.noPending]
    unfold Gathering.step
    rw [opensBlock] at opens
    simp only [between.noComment, leaveComment, Bool.false_eq_true, if_false, opens, if_true, ends, Option.map_some]
    rfl
  rw [PassesOver, gather_cons, step]
  exact ⟨⟨rfl, rfl⟩, List.forall_mem_singleton.2 rfl⟩

/-- Inside of a block comment, lines are passed over up to the first end mark. -/
theorem passesOver_inner (noPending : g.pending = []) (inside : g.inComment = true) {inner : List (List Char)}
    {last : List Char} (goesOn : ∀ line ∈ inner, afterEndMark? (trim line) = none)
    (ends : afterEndMark? (trim last) = some []) : g.PassesOver n (inner ++ [last]) := by
  induction inner generalizing n with
  | nil =>
    have step : g.step n last = ({ start := n }, [(n, [])]) := by
      rw [← join_nil noPending]
      unfold Gathering.step
      simp only [inside, leaveComment, if_true, ends, Option.map_some]
      rfl
    rw [List.nil_append, PassesOver, gather_cons, step]
    exact ⟨⟨rfl, rfl⟩, List.forall_mem_singleton.2 rfl⟩
  | cons line inner ih =>
    obtain ⟨here, later⟩ := List.forall_mem_cons.1 goesOn
    have step : g.step n line = (g, []) := by
      unfold Gathering.step
      simp only [inside, leaveComment, if_true, here, Option.map_none]
    rw [List.cons_append, PassesOver, gather_cons, step]
    exact ih later

theorem passesOver_blockOfLines (between : g.IsBetween) {first last : List Char} {inner : List (List Char)}
    (opens : opensBlock first = true) (unended : afterEndMark? (trim first) = none)
    (goesOn : ∀ line ∈ inner, afterEndMark? (trim line) = none) (ends : afterEndMark? (trim last) = some []) :
    g.PassesOver n (first :: (inner ++ [last])) := by
  have step : g.step n first = ({ g with inComment := true }, []) := by
    unfold Gathering.step
    rw [opensBlock] at opens
    simp only [between.noComment, leaveComment, Bool.false_eq_true, if_false, opens, if_true, unended, Option.map_none]
  rw [PassesOver, gather_cons, step]
  exact passesOver_inner (g := { g with inComment := true }) (n := n + 1) between.noPending rfl goesOn ends

theorem noBlock_of_isComment (comment : isComment (trim line) = true) : opensBlock line = false := by
  rw [isComment, Bool.or_eq_true, List.isPrefixOf_iff_prefix, List.isPrefixOf_iff_prefix] at comment
  rcases comment with ⟨rest, text⟩ | ⟨rest, text⟩
  · rw [opensBlock, ← text]
    rfl
  · rw [opensBlock, ← text]
    rfl

theorem live?_of_comment (comment : isComment line = true)
    (other : "element ".toList.isPrefixOf (trimLeft (dropMarks line)) = false) : live? line = none := by
  by_cases silent : (line.isEmpty || "!".toList.isPrefixOf line) = true
  · rw [live?, if_pos silent]
  · rw [live?, if_neg silent, if_pos comment]
    simp only [other, Bool.false_eq_true, if_false]

/-- An aside is passed over wherever no block comment is open and no line goes on. -/
theorem passesOver_aside (between : g.IsBetween) (h : IsAside aside) (n : Nat) : g.PassesOver n aside := by
  cases h with
  | @blank line empty =>
    have noBlock : opensBlock line = false := by
      rw [opensBlock, empty]
      rfl
    refine passesOver_line between noBlock ?_ ?_
    · rw [empty]
      exact nofun
    · rw [empty]
      rfl
  | @directive line bang noJoin =>
    have noBlock : opensBlock line = false := by
      obtain ⟨rest, text⟩ := List.isPrefixOf_iff_prefix.1 bang
      rw [opensBlock, ← text]
      rfl
    refine passesOver_line between noBlock noJoin ?_
    rw [live?, bang, Bool.or_true, if_pos rfl]
  | comment comment other noJoin =>
    exact passesOver_line between (noBlock_of_isComment comment) noJoin (live?_of_comment comment other)
  | block opens ends => exact passesOver_block between opens ends
  | blockOfLines opens unended goesOn ends => exact passesOver_blockOfLines between opens unended goesOn ends

end Gathering

/-! ## Documents with an aside -/

/-- The numbers of lines where `k` more stand behind the first `n`. -/
def moved (n k line : Nat) : Nat := if line ≤ n then line else line + k

theorem statementsOf_renumbered (f : Nat → Nat) (n : Nat) (line : List Char) :
    statementsOf (f n) line = (statementsOf n line).map (·.renumbered f) := by
  unfold statementsOf
  cases live? line with
  | none => rfl
  | some live => simp only [List.map_map]; rfl

theorem statementsOf_of_dead {line : List Char} (dead : live? line = none) (n : Nat) : statementsOf n line = [] := by
  rw [statementsOf, dead]

/-- The statements of joined lines. -/
def statementsOfLines (ls : List (Nat × List Char)) : List Statement := ls.flatMap fun l => statementsOf l.1 l.2

theorem statementsOfLines_append (ls ms : List (Nat × List Char)) :
    statementsOfLines (ls ++ ms) = statementsOfLines ls ++ statementsOfLines ms := List.flatMap_append

theorem statementsOfLines_of_dead {ls : List (Nat × List Char)} (dead : ∀ l ∈ ls, live? l.2 = none) :
    statementsOfLines ls = [] :=
  List.flatMap_eq_nil_iff.2 fun l hl => statementsOf_of_dead (dead l hl) l.1

theorem statementsOfLines_renumbered {f : Nat → Nat} {g : Nat × List Char → Nat × List Char}
    {ls : List (Nat × List Char)} (same : ∀ l ∈ ls, g l = (f l.1, l.2)) :
    statementsOfLines (ls.map g) = (statementsOfLines ls).map (·.renumbered f) := by
  rw [statementsOfLines, statementsOfLines, List.map_flatMap, List.flatMap_map]
  refine List.flatMap_congr fun l hl => ?_
  rw [same l hl, statementsOf_renumbered]

variable {before aside behind : List (List Char)}

/-- The state behind the first lines of a document. -/
def behindLines (ls : List (List Char)) : Gathering := (({} : Gathering).gather 1 ls).1

theorem tokenize_append {text : String} (h : lines text.toList = before ++ behind) :
    tokenize text = statementsOfLines (({} : Gathering).gather 1 before).2 ++
      statementsOfLines ((behindLines before).run (1 + before.length) behind) := by
  rw [← statementsOfLines_append, behindLines, ← Gathering.run_append, ← h]
  rfl

/-- With an aside between its lines, a document has the same statements, those behind it further down. -/
theorem tokenize_aside {text text' : String} (h : lines text.toList = before ++ behind)
    (h' : lines text'.toList = before ++ (aside ++ behind)) (between : (behindLines before).IsBetween)
    (quiet : IsAside aside) :
    tokenize text' = (tokenize text).map (·.renumbered (moved before.length aside.length)) := by
  obtain ⟨still, dead⟩ := Gathering.passesOver_aside between quiet (1 + before.length)
  have started : ∀ P, Gathering.StartsIn P {} := fun P more => absurd rfl more
  have first : ∀ l ∈ (({} : Gathering).gather 1 before).2, l.1 ≤ before.length :=
    (Gathering.gather_forall (P := (· ≤ before.length)) (started _) fun m _ below => by omega).2
  have later : ∀ l ∈ (behindLines before).run (1 + before.length) behind, before.length < l.1 :=
    Gathering.run_forall (fun more => absurd between.noPending more) fun m above _ => by omega
  have down := (between.below still aside.length).run (1 + before.length) behind
  rw [tokenize_append h, tokenize_append h', Gathering.run_append, statementsOfLines_append, down,
    statementsOfLines_of_dead dead, List.nil_append, List.map_append]
  congr 1
  · have kept := statementsOfLines_renumbered (g := id) (f := moved before.length aside.length) fun l hl => by
      rw [moved, if_pos (first l hl)]
      rfl
    rwa [List.map_id] at kept
  · refine statementsOfLines_renumbered fun l hl => ?_
    have below := later l hl
    rw [moved, if_neg (by omega)]
    rfl

/-! ## Braces -/

/-- Lines with as many opening as closing braces. -/
def AreBalanced (ls : List (List Char)) : Prop := ls.flatten.count '{' = ls.flatten.count '}'

instance (ls : List (List Char)) : Decidable (AreBalanced ls) := inferInstanceAs (Decidable (_ = _))

theorem balanced_aside_iff {text text' : String} (h : lines text.toList = before ++ behind)
    (h' : lines text'.toList = before ++ (aside ++ behind)) (even : AreBalanced aside) :
    (braceCounts text').1 = (braceCounts text').2 ↔ (braceCounts text).1 = (braceCounts text).2 := by
  have counts : ∀ (t : String) (c : Char), isLineBoundary c = false →
      t.toList.count c = (lines t.toList).flatten.count c := fun t c inside => (count_lines inside _).symm
  unfold AreBalanced at even
  simp only [braceCounts]
  rw [counts text '{' (by decide), counts text '}' (by decide), counts text' '{' (by decide),
    counts text' '}' (by decide), h, h']
  simp only [List.flatten_append, List.count_append]
  omega

/-! ## Reading a document with an aside -/

/-- With an aside between two of its lines a document has the same statements, those behind it further down. If the
aside has as many opening as closing braces, the same workspace is read or none is, and each warning is the same but
for the number of its line. -/
theorem parse_aside {text text' : String} (h : lines text.toList = before ++ behind)
    (h' : lines text'.toList = before ++ (aside ++ behind)) (between : (behindLines before).IsBetween)
    (quiet : IsAside aside) :
    tokenize text' = (tokenize text).map (·.renumbered (moved before.length aside.length)) ∧
      (AreBalanced aside → ∀ ids drawn,
        (∀ p, parse ids drawn text = .ok p → ∃ warnings, parse ids drawn text' = .ok { p with warnings } ∧
          AreRenumbered (moved before.length aside.length) p.warnings warnings) ∧
        ((∃ f, parse ids drawn text = .error f) ↔ ∃ f, parse ids drawn text' = .error f)) := by
  have statements := tokenize_aside h h' between quiet
  refine ⟨statements, fun even ids drawn => ⟨fun p read => ?_, ?_⟩⟩
  · have balanced := (exists_parse_iff ids drawn text).1 ⟨p, read⟩
    have start : Builder.Renumbers (moved before.length aside.length) { drawn } { drawn } := ⟨[], rfl, .nil⟩
    have fed := Builder.feedAll_renumbered ids start (tokenize text)
    obtain ⟨warnings, built, related⟩ := Builder.build_renumbered ids fed
    rw [eq_build_of_parse read]
    refine ⟨warnings, ?_, related⟩
    rw [parse_of_balanced ids drawn ((balanced_aside_iff h h' even).2 balanced), statements, built]
  · rw [exists_error_iff, exists_error_iff, exists_parse_iff, exists_parse_iff, balanced_aside_iff h h' even]

/-- A block comment over three lines, with a brace of each sort. -/
def blockOfThree : List (List Char) := ["/* was: \x7b".toList, "element a 1 2 \\".toList, "until \x7d */".toList]

theorem isAside_blockOfThree : IsAside blockOfThree := by
  have goesOn : ∀ line ∈ ["element a 1 2 \\".toList], afterEndMark? (trim line) = none := by decide
  exact .blockOfLines (by decide) (by decide) goesOn (by decide)

/-- The block comment stands behind the first line; the relationship that leads nowhere is three lines further down. -/
theorem parse_aside_blockOfThree :
    let text := "model \x7b\na = person \"Ann\"\na -> b\n\x7d"
    let text' := "model \x7b\n/* was: \x7b\nelement a 1 2 \\\nuntil \x7d */\na = person \"Ann\"\na -> b\n\x7d"
    (behindLines ["model \x7b".toList]).IsBetween ∧ IsAside blockOfThree ∧ AreBalanced blockOfThree ∧
      ∃ p, parse IdSource.strokes 0 text = .ok p ∧
        p.warnings = ["Line 3: could not resolve relationship elements: a -> b"] ∧
          parse IdSource.strokes 0 text' =
            .ok { p with warnings := ["Line 6: could not resolve relationship elements: a -> b"] } := by
  intro text text'
  have between : (behindLines ["model \x7b".toList]).IsBetween := ⟨by decide, by decide⟩
  have even : AreBalanced blockOfThree := by decide
  have balanced : (braceCounts text).1 = (braceCounts text).2 := by decide +kernel
  have read := parse_of_balanced IdSource.strokes 0 balanced
  have without : lines text.toList =
      ["model \x7b".toList] ++ ["a = person \"Ann\"".toList, "a -> b".toList, "\x7d".toList] := by decide +kernel
  have within : lines text'.toList = ["model \x7b".toList] ++
      (blockOfThree ++ ["a = person \"Ann\"".toList, "a -> b".toList, "\x7d".toList]) := by decide +kernel
  have readings := (parse_aside without within between isAside_blockOfThree).2 even IdSource.strokes 0
  obtain ⟨warnings, read', _⟩ := readings.1 _ read
  have told : (parse IdSource.strokes 0 text').toOption.map (·.warnings) =
      some ["Line 6: could not resolve relationship elements: a -> b"] := by decide +kernel
  rw [read'] at told
  obtain rfl := Option.some.inj told
  exact ⟨between, isAside_blockOfThree, even, _, read, by decide +kernel, read'⟩

/-- The comment does not end in a backslash, but it is trimmed before that is looked at, and so it takes the line
behind it along: the header of the block is gone. -/
theorem not_tokenize_trailingBlank :
    let comment := "# note \\ ".toList
    let text := "model \x7b\n\x7d"
    let text' := "# note \\ \nmodel \x7b\n\x7d"
    lines text'.toList = comment :: lines text.toList ∧ (behindLines []).IsBetween ∧ isComment comment = true ∧
      "element ".toList.isPrefixOf (trimLeft (dropMarks comment)) = false ∧ comment.getLast? ≠ some '\\' ∧
        (tokenize text).map (·.text) = ["model \x7b".toList, "\x7d".toList] ∧
          (tokenize text').map (·.text) = ["\x7d".toList] := by
  refine ⟨by decide +kernel, ⟨rfl, rfl⟩, ?_⟩
  decide +kernel

end Dsl

end Blueprint
