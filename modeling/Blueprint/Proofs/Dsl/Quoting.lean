/-
  Blueprint.Proofs.Dsl.Quoting — which arguments survive being written and read (`quoted_tail` and then
  `quoted_args`).

  Arguments are read one after the other, and a text whose quotes close elsewhere takes a part of the next
  one along, or is not found at all. In the first case the text that is read has another number of quotes;
  in the second there are not enough quotes left for all the arguments. So what comes back unchanged was
  closed where it should be.

  Proved: arguments come back just if all of them are safe, and what was read is always safe
  (`quotedArguments_codec`).
-/

import Blueprint.Proofs.Dsl.Arguments

namespace Blueprint.Dsl

open Text

theorem isSafe_empty : IsSafe [] := isSafe_iff.2 ⟨by simp, rfl⟩

/-- The empty arguments at the end are safe, whether they are written or not. -/
theorem allSafe_dropEmptyEnd {values : List String} : AllSafe (dropEmptyEnd values) ↔ AllSafe values := by
  refine ⟨fun h v hv => ?_, fun h v hv => h v (mem_of_mem_dropEmptyEnd hv)⟩
  obtain ⟨k, hk⟩ := exists_eq_dropEmptyEnd_append values
  rw [hk] at hv
  rcases List.mem_append.1 hv with kept | empty
  · exact h v kept
  · rw [List.eq_of_mem_replicate empty]
    exact isSafe_empty

/-! ## Quotes that are counted -/

/-- How many quotes it takes to write the texts: their own, and two around each. -/
def quotesFor : List String → Nat
  | [] => 0
  | v :: vs => v.toList.count '"' + 2 + quotesFor vs

theorem count_arguments (values : List String) : (arguments values).count '"' = quotesFor values := by
  induction values with
  | nil => rfl
  | cons v vs ih =>
    rw [arguments_cons, quotesFor, ← ih]
    simp [quote, count_quote_escape]
    omega

theorem quotesFor_quotedArguments_le (cs : List Char) : quotesFor (quotedArguments cs) ≤ cs.count '"' := by
  unfold quotedArguments
  fun_induction quotedBodies cs with
  | case1 => exact Nat.zero_le _
  | case2 cs body rest close ih =>
    rw [List.map_cons, quotesFor, String.toList_ofList, count_quote_unescape, append_of_closeQuote close,
      List.count_cons_self, List.count_append, List.count_cons_self]
    omega
  | case3 cs _ ih =>
    rw [List.count_cons_self]
    omega
  | case4 c cs notQuote ih => simpa [List.count_cons, notQuote] using ih

/-! ## All arguments -/

/-- What comes back unchanged is safe. -/
theorem allSafe_of_quotedArguments {values : List String} (h : quotedArguments (arguments values) = values) :
    AllSafe values := by
  induction values with
  | nil => exact List.forall_mem_nil _
  | cons v vs ih =>
    rw [arguments_cons_eq, quotedArguments_quote] at h
    split at h
    · next body rest close =>
      obtain ⟨first, later⟩ := List.cons_eq_cons.1 h
      have text : Text.unescape body = v.toList := by rw [← first, String.toList_ofList]
      -- the text that was read has as many quotes as were written, so it was closed by its own quote
      have quotes : body.count '"' = (escape v.toList).count '"' := by
        rw [← count_quote_unescape, text, count_quote_escape]
      obtain ⟨rfl, rfl⟩ := parted_unique (append_of_closeQuote close).symm quotes
      exact allSafe_cons.2 ⟨isSafe_iff.2 ⟨unescape_escape_iff.1 text, closeQuote_escape_iff.1 close⟩, ih later⟩
    · -- one quote is lost, and the others are too few for what was read
      have enough := quotesFor_quotedArguments_le (escape v.toList ++ '"' :: arguments vs)
      rw [h, quotesFor, List.count_append, List.count_cons_self, count_arguments, count_quote_escape] at enough
      omega

theorem allSafe_quotedArguments (cs : List Char) : AllSafe (quotedArguments cs) := by
  rw [quotedArguments]
  fun_induction quotedBodies cs with
  | case1 => exact List.forall_mem_nil _
  | case2 cs body rest close ih =>
    refine allSafe_cons.2 ⟨?_, ih⟩
    rw [String.toList_ofList]
    exact isSafe_of_closeQuote close
  | case3 cs _ ih => exact ih
  | case4 c cs _ ih => exact ih

/-- Arguments come back, but for the empty ones at the end, just if all of them are safe. What was read is safe, so
it can be written and read again. -/
theorem quotedArguments_codec :
    (∀ values : List (Option String),
      quotedArguments (quotedTail values) = dropEmptyEnd (values.map (·.getD "")) ↔
        ∀ v, some v ∈ values → IsSafe v.toList) ∧
    ∀ cs, (∀ v ∈ quotedArguments cs, IsSafe v.toList) ∧
      quotedArguments (quotedTail ((quotedArguments cs).map some)) = dropEmptyEnd (quotedArguments cs) := by
  have written : ∀ values : List (Option String),
      quotedArguments (quotedTail values) = dropEmptyEnd (values.map (·.getD "")) ↔
        AllSafe (values.map (·.getD "")) := by
    intro values
    rw [quotedTail_eq, ← allSafe_dropEmptyEnd]
    exact ⟨allSafe_of_quotedArguments, quotedArguments_of_allSafe⟩
  refine ⟨fun values => (written values).trans ⟨fun h v hv => ?_, fun h v hv => ?_⟩, fun cs => ?_⟩
  · exact h v (List.mem_map.2 ⟨some v, hv, rfl⟩)
  · obtain ⟨o, ho, rfl⟩ := List.mem_map.1 hv
    cases o with
    | none => exact isSafe_empty
    | some w => exact h w ho
  · have same : ((quotedArguments cs).map some).map (·.getD "") = quotedArguments cs := by simp
    refine ⟨allSafe_quotedArguments cs, ?_⟩
    rw [(written _).2 (by rw [same]; exact allSafe_quotedArguments cs), same]

/-- One folder comes back, and another is broken into two lines. -/
theorem quotedArguments_codec_folders :
    quotedArguments (quotedTail [some "C:\\old", none, some "x", none]) = ["C:\\old", "", "x"] ∧
      quotedArguments (quotedTail [some "C:\\new"]) ≠ ["C:\\new"] := by
  refine ⟨(quotedArguments_codec.1 _).2 fun v hv => ?_, fun same => ?_⟩
  · simp only [List.mem_cons, Option.some.injEq, reduceCtorEq, false_or, List.not_mem_nil, or_false] at hv
    rcases hv with rfl | rfl
    · decide
    · decide
  · have safe := (quotedArguments_codec.1 [some "C:\\new"]).1 same "C:\\new" (by decide)
    exact absurd safe (by decide)

end Blueprint.Dsl
