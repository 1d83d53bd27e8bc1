/-
  Blueprint.Proofs.Text.Safe — which texts survive being written in quotes.

  Escaping leaves backslashes as they are, while a reader takes each one together with the character
  behind it, from the left. So a text comes back just if none of its backslashes makes a pair that it was
  not meant to make: none stands before the letter n, and those before a quote or at the end are even in
  number, run by run. What a reader has read is always of that sort.

  Proved: a text comes back from its escaped form just if it has no backslash before an n
  (`unescape_escape_iff`); its quotes close where they should just if the runs are even
  (`closeQuote_escape_iff`); both hold of every text that was read (`isSafe_of_closeQuote`).
-/

import Blueprint.Text.Infix
import Blueprint.Text.Quoted
import Mathlib.Algebra.Group.Nat.Even

namespace Blueprint.Text

/-- How many backslashes a text ends in. -/
def marksAtEnd (cs : List Char) : Nat := (cs.reverse.takeWhile (· == '\\')).length

/-- No backslash stands before the letter n, and every run of backslashes before a quote or at the end is
even. -/
structure IsSafe (cs : List Char) : Prop where
  noPair : ¬ ['\\', 'n'] <:+: cs
  beforeQuotes : ∀ before after, cs = before ++ '"' :: after → Even (marksAtEnd before)
  atEnd : Even (marksAtEnd cs)

/-! ## Runs of backslashes -/

theorem marksAtEnd_concat (cs : List Char) (c : Char) :
    marksAtEnd (cs ++ [c]) = if c = '\\' then marksAtEnd cs + 1 else 0 := by
  by_cases h : c = '\\' <;> simp [marksAtEnd, h]

theorem even_marksAtEnd_of_not_mem {cs : List Char} (h : '\\' ∉ cs) : Even (marksAtEnd cs) := by
  rcases List.eq_nil_or_concat cs with rfl | ⟨front, c, rfl⟩
  · exact Even.zero
  · have notMark : c ≠ '\\' := fun mark => h (by simp [mark])
    rw [List.concat_eq_append, marksAtEnd_concat, if_neg notMark]
    exact Even.zero

/-- The runs of backslashes before quotes and at the end are even; `odd` says of what number the run is that
goes on into the text. -/
def hasEvenRuns (odd : Bool) : List Char → Bool
  | [] => !odd
  | '\\' :: cs => hasEvenRuns (!odd) cs
  | '"' :: cs => !odd && hasEvenRuns false cs
  | _ :: cs => hasEvenRuns false cs

theorem hasEvenRuns_cons {c : Char} (notMark : c ≠ '\\') (notQuote : c ≠ '"') (odd : Bool) (cs : List Char) :
    hasEvenRuns odd (c :: cs) = hasEvenRuns false cs := by
  rw [hasEvenRuns]
  · exact fun e => notMark e
  · exact fun e => notQuote e

/-- A quote that stands in a text stands at its head or behind it. -/
theorem forall_quote_cons {P : List Char → Prop} {c : Char} {cs : List Char} :
    (∀ before after, c :: cs = before ++ '"' :: after → P before) ↔
      (c = '"' → P []) ∧ ∀ before after, cs = before ++ '"' :: after → P (c :: before) := by
  constructor
  · intro all
    exact ⟨fun e => all [] cs (by rw [e]; rfl), fun before after split => all (c :: before) after (by rw [split]; rfl)⟩
  · rintro ⟨here, there⟩ before after split
    rcases List.cons_eq_append_iff.1 split with ⟨rfl, e⟩ | ⟨front, rfl, e⟩
    · cases e
      exact here rfl
    · exact there front after e

theorem hasEvenRuns_iff (front cs : List Char) :
    hasEvenRuns (marksAtEnd front % 2 == 1) cs = true ↔
      (∀ before after, cs = before ++ '"' :: after → Even (marksAtEnd (front ++ before))) ∧
        Even (marksAtEnd (front ++ cs)) := by
  induction cs generalizing front with
  | nil => simp [hasEvenRuns, Nat.even_iff]
  | cons c cs ih =>
    have later := ih (front ++ [c])
    simp only [marksAtEnd_concat, List.append_assoc, List.singleton_append] at later
    rw [forall_quote_cons, List.append_nil, and_assoc, ← later]
    by_cases mark : c = '\\'
    · subst mark
      have flip : (!(marksAtEnd front % 2 == 1)) = ((marksAtEnd front + 1) % 2 == 1) := by
        rw [Bool.eq_iff_iff]
        simp only [Bool.not_eq_true', beq_eq_false_iff_ne, beq_iff_eq]
        omega
      simp [hasEvenRuns, flip]
    · by_cases quote : c = '"'
      · subst quote
        simp [hasEvenRuns, Nat.even_iff]
      · simp [hasEvenRuns_cons mark quote, mark, quote]

theorem isSafe_iff {cs : List Char} : IsSafe cs ↔ ¬ ['\\', 'n'] <:+: cs ∧ hasEvenRuns false cs = true := by
  have runs := hasEvenRuns_iff [] cs
  simp only [List.nil_append] at runs
  exact ⟨fun h => ⟨h.noPair, runs.2 ⟨h.beforeQuotes, h.atEnd⟩⟩, fun ⟨noPair, even⟩ =>
    ⟨noPair, (runs.1 even).1, (runs.1 even).2⟩⟩

instance (cs : List Char) : Decidable (IsSafe cs) :=
  decidable_of_iff (isInfix ['\\', 'n'] cs = false ∧ hasEvenRuns false cs = true) <| by
    rw [isSafe_iff, Bool.eq_false_iff, ne_eq, isInfix_iff]

/-! ## Pairs that are undone -/

theorem unescape_cons {c : Char} (h : c ≠ '\\') (cs : List Char) : unescape (c :: cs) = c :: unescape cs := by
  rw [unescape]
  · intro _ e _; exact h e
  · intro _ e _; exact h e

theorem head?_unescape {cs : List Char} (h : (unescape cs).head? = some 'n') : cs.head? = some 'n' := by
  revert h
  fun_cases unescape cs <;> simp

/-- No backslash is left before an n. -/
theorem noPair_unescape (cs : List Char) : ¬ ['\\', 'n'] <:+: unescape cs := by
  fun_induction unescape cs with
  | case1 => simp
  | case2 cs ih => simpa [List.infix_cons_iff, List.cons_prefix_cons] using ih
  | case3 cs ih => simpa [List.infix_cons_iff, List.cons_prefix_cons] using ih
  | case4 c cs _ notPair ih =>
    rw [List.infix_cons_iff]
    rintro (here | there)
    · obtain ⟨rfl, _, starts⟩ := List.cons_prefix_cons.1 here
      have letter : cs.head? = some 'n' := head?_unescape (by rw [← starts]; rfl)
      obtain ⟨rest, rfl⟩ := List.head?_eq_some_iff.1 letter
      exact notPair rest rfl rfl
    · exact ih there

/-- What is escaped begins with no quote, and with an n only if the text does. -/
theorem head?_escape (cs : List Char) :
    (escape cs).head? ≠ some '"' ∧ ((escape cs).head? = some 'n' → cs.head? = some 'n') := by
  fun_cases escape cs <;> simp_all

theorem unescape_mark {cs : List Char} (notQuote : cs.head? ≠ some '"') (notLetter : cs.head? ≠ some 'n') :
    unescape ('\\' :: cs) = '\\' :: unescape cs := by
  rw [unescape]
  · rintro rest - rfl
    exact notQuote rfl
  · rintro rest - rfl
    exact notLetter rfl

theorem unescape_escape_iff {cs : List Char} : unescape (escape cs) = cs ↔ ¬ ['\\', 'n'] <:+: cs := by
  constructor
  · intro same
    rw [← same]
    exact noPair_unescape _
  · intro noPair
    fun_induction escape cs with
    | case1 => rfl
    | case2 cs ih => rw [unescape, ih fun h => noPair (List.infix_cons h)]
    | case3 cs ih => rw [unescape, ih fun h => noPair (List.infix_cons h)]
    | case4 c cs _ _ ih =>
      have rest := ih fun h => noPair (List.infix_cons h)
      by_cases mark : c = '\\'
      · subst mark
        obtain ⟨notQuote, letter⟩ := head?_escape cs
        refine (unescape_mark notQuote fun starts => noPair ?_).trans (by rw [rest])
        obtain ⟨ds, rfl⟩ := List.head?_eq_some_iff.1 (letter starts)
        exact ⟨[], ds, rfl⟩
      · rw [unescape_cons mark, rest]

/-! ## Quotes that close -/

theorem closeQuote_cons {c : Char} (notQuote : c ≠ '"') (notBackslash : c ≠ '\\') (cs : List Char) :
    closeQuote? (c :: cs) = (closeQuote? cs).map fun p => (c :: p.1, p.2) := by
  rw [closeQuote?]
  · intro e; exact notQuote e
  · intro e _; exact notBackslash e
  · intro _ _ e _; exact notBackslash e

theorem closeQuote_pair_iff {c : Char} (notFeed : c ≠ '\n') {cs body rest : List Char} :
    closeQuote? ('\\' :: c :: cs) = some ('\\' :: c :: body, rest) ↔ closeQuote? cs = some (body, rest) := by
  rw [closeQuote?, if_neg notFeed]
  cases closeQuote? cs <;> simp [Prod.ext_iff]

theorem closeQuote_cons_iff {c : Char} (notQuote : c ≠ '"') (notMark : c ≠ '\\') {cs body rest : List Char} :
    closeQuote? (c :: cs) = some (c :: body, rest) ↔ closeQuote? cs = some (body, rest) := by
  rw [closeQuote_cons notQuote notMark]
  cases closeQuote? cs <;> simp [Prod.ext_iff]

/-- The quote behind a text closes it just if its runs are even; behind one more backslash, if they are so
with it. -/
theorem closeQuote_escape_cases (cs rest : List Char) :
    (closeQuote? (escape cs ++ '"' :: rest) = some (escape cs, rest) ↔ hasEvenRuns false cs = true) ∧
      (closeQuote? ('\\' :: (escape cs ++ '"' :: rest)) = some ('\\' :: escape cs, rest) ↔
        hasEvenRuns true cs = true) := by
  fun_induction escape cs with
  | case1 => exact ⟨by simp [closeQuote?, hasEvenRuns], by simp [closeQuote?, hasEvenRuns]⟩
  | case2 cs ih =>
    rw [List.cons_append, List.cons_append, closeQuote_pair_iff (by decide), ih.1]
    exact ⟨by simp [hasEvenRuns], by simp [closeQuote?, hasEvenRuns]⟩
  | case3 cs ih =>
    rw [List.cons_append, List.cons_append, closeQuote_pair_iff (by decide), closeQuote_pair_iff (by decide),
      closeQuote_cons_iff (by decide) (by decide), ih.1, hasEvenRuns_cons (by decide) (by decide),
      hasEvenRuns_cons (by decide) (by decide)]
    exact ⟨.rfl, .rfl⟩
  | case4 c cs notQuote notFeed ih =>
    rw [List.cons_append]
    by_cases mark : c = '\\'
    · subst mark
      rw [ih.2, closeQuote_pair_iff (by decide), ih.1]
      exact ⟨.rfl, .rfl⟩
    · rw [closeQuote_pair_iff notFeed, closeQuote_cons_iff notQuote mark, ih.1, hasEvenRuns_cons mark notQuote,
        hasEvenRuns_cons mark notQuote]
      exact ⟨.rfl, .rfl⟩

theorem closeQuote_escape_iff {cs rest : List Char} :
    closeQuote? (escape cs ++ '"' :: rest) = some (escape cs, rest) ↔ hasEvenRuns false cs = true :=
  (closeQuote_escape_cases cs rest).1

/-! ## Texts that were read -/

/-- A backslash that stands before anything else than a quote and an n stays, and takes nothing along. -/
theorem hasEvenRuns_mark_cons {c : Char} (notQuote : c ≠ '"') (notMark : c ≠ '\\') (odd : Bool) (cs : List Char) :
    hasEvenRuns odd (unescape ('\\' :: c :: cs)) = hasEvenRuns false (unescape cs) := by
  by_cases letter : c = 'n'
  · subst letter
    rw [unescape, hasEvenRuns_cons (by decide) (by decide)]
  · rw [unescape_mark (by simpa using notQuote) (by simpa using letter), unescape_cons notMark, hasEvenRuns,
      hasEvenRuns_cons notMark notQuote]

/-- What was read is even in its runs, and stays so behind a backslash that was read in front of it. -/
theorem hasEvenRuns_of_closeQuote {cs body rest : List Char} (h : closeQuote? cs = some (body, rest)) :
    hasEvenRuns false (unescape body) = true ∧ hasEvenRuns true (unescape ('\\' :: body)) = true := by
  fun_induction closeQuote? cs generalizing body rest with
  | case1 => simp at h
  | case2 cs =>
    cases h
    exact ⟨rfl, rfl⟩
  | case3 => simp at h
  | case4 => simp at h
  | case5 c cs notFeed ih =>
    obtain ⟨⟨inner, r⟩, hp, e⟩ := Option.map_eq_some_iff.1 h
    cases e
    obtain ⟨even, odd⟩ := ih hp
    have pair : hasEvenRuns false (unescape ('\\' :: c :: inner)) = true := by
      by_cases quote : c = '"'
      · subst quote
        rw [unescape, hasEvenRuns, even]
        rfl
      · by_cases mark : c = '\\'
        · subst mark
          rw [unescape_mark (by simp) (by simp)]
          exact odd
        · rw [hasEvenRuns_mark_cons quote mark, even]
    refine ⟨pair, ?_⟩
    rw [unescape_mark (by simp) (by simp)]
    exact pair
  | case6 c cs notQuote notEnd notPair ih =>
    obtain ⟨⟨inner, r⟩, hp, e⟩ := Option.map_eq_some_iff.1 h
    cases e
    obtain ⟨even, _⟩ := ih hp
    have notMark : c ≠ '\\' := by
      rintro rfl
      cases cs with
      | nil => exact notEnd rfl rfl
      | cons d ds => exact notPair d ds rfl rfl
    refine ⟨?_, ?_⟩
    · rw [unescape_cons notMark, hasEvenRuns_cons notMark notQuote, even]
    · rw [hasEvenRuns_mark_cons notQuote notMark, even]

theorem isSafe_of_closeQuote {cs body rest : List Char} (h : closeQuote? cs = some (body, rest)) :
    IsSafe (unescape body) :=
  isSafe_iff.2 ⟨noPair_unescape body, (hasEvenRuns_of_closeQuote h).1⟩

/-! ## Quotes that are counted -/

theorem count_quote_escape (cs : List Char) : (escape cs).count '"' = cs.count '"' := by
  fun_induction escape cs with
  | case1 => rfl
  | case2 cs ih => simp [ih]
  | case3 cs ih => simp [ih]
  | case4 c cs _ _ ih => simp [List.count_cons, ih]

theorem count_quote_unescape (cs : List Char) : (unescape cs).count '"' = cs.count '"' := by
  fun_induction unescape cs with
  | case1 => rfl
  | case2 cs ih => simp [ih]
  | case3 cs ih => simp [ih]
  | case4 c cs _ _ ih => simp [List.count_cons, ih]

theorem append_of_closeQuote {cs body rest : List Char} (h : closeQuote? cs = some (body, rest)) :
    cs = body ++ '"' :: rest := by
  fun_induction closeQuote? cs generalizing body rest with
  | case1 => simp at h
  | case2 cs => cases h; rfl
  | case3 => simp at h
  | case4 => simp at h
  | case5 c cs _ ih =>
    obtain ⟨⟨inner, r⟩, hp, e⟩ := Option.map_eq_some_iff.1 h
    cases e
    rw [ih hp]
    rfl
  | case6 c cs _ _ _ ih =>
    obtain ⟨⟨inner, r⟩, hp, e⟩ := Option.map_eq_some_iff.1 h
    cases e
    rw [ih hp]
    rfl

/-- A text is parted at a character in one way only, if it is known how often it stands in front. -/
theorem parted_unique {c : Char} {front back front' back' : List Char} (h : front ++ c :: back = front' ++ c :: back')
    (count : front.count c = front'.count c) : front = front' ∧ back = back' := by
  rcases List.append_eq_append_iff.1 h with ⟨mid, rfl, e⟩ | ⟨mid, rfl, e⟩
  all_goals
    cases mid with
    | nil => simp_all
    | cons d mid =>
      obtain ⟨rfl, -⟩ := List.cons_eq_cons.1 e
      simp at count

end Blueprint.Text
