/-
  Blueprint.Proofs.Dsl.Arguments — arguments are read as they were written.

  Leaving out the empty arguments at the end changes no argument, since one that is missing is read as
  an empty one. Tags share an argument; they come back if none is empty, has a comma or blanks at its ends.

  Proved: safe arguments are read back (`quotedArguments_of_allSafe`), clean ones among them, also where
  empty ones were left out (`getD_dropEmptyEnd`), and so are tags (`splitTags_joinTags`).
-/

import Blueprint.Dsl.Builder
import Blueprint.Dsl.Writer
import Blueprint.Proofs.Text.Clean
import Mathlib.Data.List.Basic

namespace Blueprint.Dsl

open Text

/-- Arguments in quotes, each with a blank before it. -/
def arguments (values : List String) : List Char := values.flatMap fun v => ' ' :: quote v.toList

theorem arguments_cons (v : String) (vs : List String) :
    arguments (v :: vs) = ' ' :: (quote v.toList ++ arguments vs) := rfl

theorem quotedTail_eq (values : List (Option String)) :
    quotedTail values = arguments (dropEmptyEnd (values.map (·.getD ""))) := rfl

/-- All these texts are clean. -/
def AllClean (values : List String) : Prop := ∀ v ∈ values, IsClean v.toList

instance (values : List String) : Decidable (AllClean values) := List.decidableBAll _ values

theorem allClean_cons {v : String} {vs : List String} : AllClean (v :: vs) ↔ IsClean v.toList ∧ AllClean vs :=
  List.forall_mem_cons

theorem allClean_singleton {v : String} : AllClean [v] ↔ IsClean v.toList := List.forall_mem_singleton

theorem quotedArguments_blank (cs : List Char) : quotedArguments (' ' :: cs) = quotedArguments cs := by
  rw [quotedArguments, quotedBodies.eq_def]
  rfl

/-- How a text that begins with a quote is read. -/
theorem quotedArguments_quote (cs : List Char) :
    quotedArguments ('"' :: cs) = match closeQuote? cs with
      | some (body, rest) => String.ofList (Text.unescape body) :: quotedArguments rest
      | none => quotedArguments cs := by
  rw [quotedArguments, quotedBodies.eq_def]
  simp only [if_true]
  split
  · next h => rw [h]; rfl
  · next h => rw [h]; rfl

theorem arguments_cons_eq (v : String) (vs : List String) :
    quotedArguments (arguments (v :: vs)) = quotedArguments ('"' :: (escape v.toList ++ '"' :: arguments vs)) := by
  rw [arguments_cons, quotedArguments_blank, quote, List.cons_append, List.append_assoc]
  rfl

/-- All these texts are safe. -/
def AllSafe (values : List String) : Prop := ∀ v ∈ values, IsSafe v.toList

theorem allSafe_cons {v : String} {vs : List String} : AllSafe (v :: vs) ↔ IsSafe v.toList ∧ AllSafe vs :=
  List.forall_mem_cons

theorem quotedArguments_of_allSafe {values : List String} (h : AllSafe values) :
    quotedArguments (arguments values) = values := by
  induction values with
  | nil => simp [arguments, quotedArguments, quotedBodies]
  | cons v vs ih =>
    obtain ⟨safe, rest⟩ := allSafe_cons.1 h
    obtain ⟨noPair, even⟩ := isSafe_iff.1 safe
    rw [arguments_cons_eq, quotedArguments_quote, closeQuote_escape_iff.2 even]
    simp only [unescape_escape_iff.2 noPair, String.ofList_toList, ih rest]

theorem quotedArguments_arguments {values : List String} (h : AllClean values) :
    quotedArguments (arguments values) = values :=
  quotedArguments_of_allSafe fun v hv => (h v hv).isSafe

theorem unbroken_arguments {values : List String} (h : AllClean values) : IsUnbroken (arguments values) := by
  induction values with
  | nil => exact isUnbroken_nil
  | cons v vs ih =>
    obtain ⟨clean, rest⟩ := allClean_cons.1 h
    exact isUnbroken_cons.2 ⟨rfl, isUnbroken_append.2 ⟨unbroken_quote clean, ih rest⟩⟩

/-! ## Arguments that are left out -/

theorem exists_eq_replicate_append (values : List String) :
    ∃ k, values = List.replicate k "" ++ values.dropWhile (· == "") := by
  induction values with
  | nil => exact ⟨0, rfl⟩
  | cons v vs ih =>
    by_cases empty : v = ""
    · obtain ⟨k, hk⟩ := ih
      refine ⟨k + 1, ?_⟩
      rw [empty, List.dropWhile_cons, if_pos (by decide), List.replicate_succ, List.cons_append, ← hk]
    · exact ⟨0, by simp [empty]⟩

theorem exists_eq_dropEmptyEnd_append (values : List String) :
    ∃ k, values = dropEmptyEnd values ++ List.replicate k "" := by
  obtain ⟨k, hk⟩ := exists_eq_replicate_append values.reverse
  refine ⟨k, List.reverse_inj.1 ?_⟩
  rw [List.reverse_append, List.reverse_replicate, dropEmptyEnd, List.reverse_reverse]
  exact hk

theorem getD_dropEmptyEnd (values : List String) (i : Nat) :
    (dropEmptyEnd values)[i]?.getD "" = values[i]?.getD "" := by
  obtain ⟨k, hk⟩ := exists_eq_dropEmptyEnd_append values
  generalize dropEmptyEnd values = kept at hk
  subst hk
  by_cases inside : i < kept.length
  · rw [List.getElem?_append_left inside]
  · have outside : kept.length ≤ i := Nat.not_lt.1 inside
    rw [List.getElem?_append_right outside, List.getElem?_eq_none outside, List.getElem?_replicate]
    split <;> rfl

theorem mem_of_mem_dropEmptyEnd {v : String} {values : List String} (h : v ∈ dropEmptyEnd values) :
    v ∈ values := by
  obtain ⟨k, hk⟩ := exists_eq_dropEmptyEnd_append values
  rw [hk]
  exact List.mem_append_left _ h

theorem AllClean.dropEmptyEnd {values : List String} (h : AllClean values) : AllClean (dropEmptyEnd values) :=
  fun v hv => h v (mem_of_mem_dropEmptyEnd hv)

namespace Builder

theorem optional_eq (args : List String) (i : Nat) :
    optional args i = if args[i]?.getD "" = "" then none else some (args[i]?.getD "") := by
  unfold optional
  cases args[i]? with
  | none => rfl
  | some a => rfl

/-- An optional text that is not empty is read from the argument that it was written to. -/
theorem optional_of_getD {args : List String} {i : Nat} {o : Option String} (value : args[i]?.getD "" = o.getD "")
    (written : ∀ t, o = some t → t ≠ "") : optional args i = o := by
  rw [optional_eq, value]
  cases o with
  | none => rfl
  | some t => exact if_neg (written t rfl)

theorem tagsAt_eq (args : List String) (i : Nat) : tagsAt args i = splitTags (args[i]?.getD "") := by
  unfold tagsAt
  cases args[i]? with
  | none => rfl
  | some a => rfl

end Builder

/-! ## Tags -/

/-- The tag can stand in an argument among others. -/
structure IsTag (tag : String) : Prop where
  nonempty : tag ≠ ""
  noComma : ',' ∉ tag.toList
  trimmed : trim tag.toList = tag.toList

instance (tag : String) : Decidable (IsTag tag) :=
  decidable_of_iff (tag ≠ "" ∧ ',' ∉ tag.toList ∧ trim tag.toList = tag.toList)
    ⟨fun ⟨a, b, c⟩ => ⟨a, b, c⟩, fun ⟨a, b, c⟩ => ⟨a, b, c⟩⟩

theorem fields_of_none {p : Char → Bool} {cs : List Char} (h : ∀ c ∈ cs, p c = false) : fields p cs = [cs] := by
  induction cs with
  | nil => rfl
  | cons c cs ih => simp [fields, h c List.mem_cons_self, ih fun d hd => h d (List.mem_cons_of_mem _ hd)]

theorem fields_append {p : Char → Bool} {cs rest : List Char} {c : Char} (h : ∀ d ∈ cs, p d = false)
    (hc : p c = true) :
    fields p (cs ++ c :: rest) = cs :: fields p rest := by
  induction cs with
  | nil => simp [fields, hc]
  | cons d cs ih =>
    rw [List.cons_append, fields, if_neg (by simp [h d List.mem_cons_self]),
      ih fun x hx => h x (List.mem_cons_of_mem _ hx)]

theorem fields_intercalate {p : Char → Bool} {c : Char} (hc : p c = true) {parts : List (List Char)}
    (hne : parts ≠ [])
    (h : ∀ part ∈ parts, ∀ d ∈ part, p d = false) : fields p ([c].intercalate parts) = parts := by
  induction parts with
  | nil => exact absurd rfl hne
  | cons part parts ih =>
    have here := h part List.mem_cons_self
    cases parts with
    | nil => rw [List.intercalate_singleton, fields_of_none here]
    | cons next parts =>
      rw [List.intercalate_cons_cons, List.append_assoc, List.singleton_append, fields_append here hc,
        ih (by simp) fun q hq => h q (List.mem_cons_of_mem _ hq)]

theorem splitTags_joinTags {tags : List String} (h : ∀ tag ∈ tags, IsTag tag) :
    splitTags (joinTags tags) = tags := by
  by_cases hne : tags = []
  · rw [hne]
    rfl
  have cut : fields (· == ',') (joinTags tags).toList = tags.map String.toList := by
    rw [joinTags, String.toList_intercalate]
    refine fields_intercalate rfl (by simpa using hne) ?_
    simp only [List.forall_mem_map, beq_eq_false_iff_ne]
    rintro tag htag c hc rfl
    exact (h tag htag).noComma hc
  rw [splitTags, cut, List.map_map, List.filterMap_map]
  have keep : ∀ tag ∈ tags,
      ((fun t : List Char => if t.isEmpty then none else some (String.ofList t)) ∘ trim ∘ String.toList) tag =
        some tag := by
    intro tag htag
    have full : tag.toList.isEmpty = false := by simp [(h tag htag).nonempty]
    simp only [Function.comp_apply, (h tag htag).trimmed, full, String.ofList_toList, Bool.false_eq_true, if_false]
  rw [List.filterMap_congr keep, List.filterMap_some]

theorem isClean_joinTags {tags : List String} (h : AllClean tags) : IsClean (joinTags tags).toList := by
  rw [joinTags, String.toList_intercalate]
  induction tags with
  | nil => exact fun c hc => by cases hc
  | cons tag tags ih =>
    obtain ⟨clean, rest⟩ := allClean_cons.1 h
    cases tags with
    | nil => simpa using clean
    | cons next tags =>
      rw [List.map_cons, List.map_cons, List.intercalate_cons_cons]
      intro c hc
      simp only [List.mem_append] at hc
      rcases hc with (hc | hc) | hc
      · exact clean c hc
      · rw [List.mem_singleton.1 hc]
        decide
      · exact ih rest c hc

end Blueprint.Dsl
