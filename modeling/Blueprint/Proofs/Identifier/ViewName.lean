/-
  Blueprint.Proofs.Identifier.ViewName — ids that are made out of names.

  Such an id is a slug, with the label of its kind behind it if it is that of an element, and perhaps a
  number, so that it consists of letters, digits and low lines. An id that is drawn in groups has hyphens
  between these; no name ever turns into one.

  Proved: the characters of a made id are those of identifiers (`isIdentifierChar_of_mem_viewIdentity`,
  `isIdentifierChar_of_mem_elementIdentity`), and none of the ids that a hyphened source draws is made for a
  view (`Hyphened.spent_viewIdentity`).
-/

import Blueprint.Identifier.Seeded
import Blueprint.Proofs.Identifier.Allocation
import Blueprint.Proofs.Identifier.Source

namespace Blueprint

open Text

/-! ## Slugs -/

/-- No piece of a text has a separator in it. -/
theorem not_isSeparator_of_mem_fields {p : Char → Bool} {cs f : List Char} {c : Char} (hf : f ∈ fields p cs)
    (hc : c ∈ f) : p c = false := by
  induction cs generalizing f with
  | nil =>
    rw [fields, List.mem_singleton] at hf
    subst hf
    cases hc
  | cons d ds ih =>
    rw [fields] at hf
    split at hf
    · rcases List.mem_cons.1 hf with rfl | hf
      · cases hc
      · exact ih hf hc
    · next piece =>
      split at hf
      · next none => exact absurd none (fields_ne_nil p ds)
      · next g gs pieces =>
        rw [pieces] at ih
        rcases List.mem_cons.1 hf with rfl | hf
        · rcases List.mem_cons.1 hc with rfl | hc
          · exact Bool.eq_false_iff.2 piece
          · exact ih List.mem_cons_self hc
        · exact ih (List.mem_cons_of_mem _ hf) hc

theorem isAsciiAlphanumeric_case {c : Char} (h : isAsciiAlphanumeric c = true) :
    isAsciiAlphanumeric (asciiUpper c) = true ∧ isAsciiAlphanumeric (asciiLower c) = true := by
  have small : c.toNat < 128 := toNat_lt_of_identifierChar (by simp [isIdentifierChar, h])
  have all : ∀ n < 128, isAsciiAlphanumeric (Char.ofNat n) = true →
      isAsciiAlphanumeric (asciiUpper (Char.ofNat n)) = true ∧
        isAsciiAlphanumeric (asciiLower (Char.ofNat n)) = true := by decide
  have here := all c.toNat small
  rw [Char.ofNat_toNat] at here
  exact here h

theorem isAsciiAlphanumeric_of_mem_capitalize {cs : List Char} (h : ∀ c ∈ cs, isAsciiAlphanumeric c = true) :
    ∀ c ∈ capitalize cs, isAsciiAlphanumeric c = true := by
  cases cs with
  | nil => exact h
  | cons d ds =>
    obtain ⟨first, others⟩ := List.forall_mem_cons.1 h
    refine List.forall_mem_cons.2 ⟨(isAsciiAlphanumeric_case first).1, fun c hc => ?_⟩
    obtain ⟨b, hb, rfl⟩ := List.mem_map.1 hc
    exact (isAsciiAlphanumeric_case (others b hb)).2

theorem isAsciiAlphanumeric_of_mem_slugify {cs : List Char} {c : Char} (h : c ∈ slugify cs) :
    isAsciiAlphanumeric c = true := by
  obtain ⟨piece, hpiece, hc⟩ := List.mem_flatMap.1 h
  refine isAsciiAlphanumeric_of_mem_capitalize (fun d hd => ?_) c hc
  simpa using not_isSeparator_of_mem_fields (List.mem_of_mem_filter hpiece) hd

/-! ## Made ids -/

theorem isIdentifierChar_of_mem_candidate {base : String} (h : ∀ c ∈ base.toList, isIdentifierChar c = true) (k : Nat) :
    ∀ c ∈ (candidate base k).toList, isIdentifierChar c = true := by
  unfold candidate
  split
  · exact h
  · rw [String.toList_append, String.toList_append, toList_natText]
    refine List.forall_mem_append.2 ⟨List.forall_mem_append.2 ⟨h, List.all_eq_true.1 rfl⟩, fun c hc => ?_⟩
    exact isIdentifierChar_of_digit (isAsciiDigit_of_mem_natDigits hc)

theorem isIdentifierChar_of_mem_firstFree {base : String} (h : ∀ c ∈ base.toList, isIdentifierChar c = true)
    (taken : List String) : ∀ c ∈ (firstFree base taken).toList, isIdentifierChar c = true := by
  obtain ⟨k, made, _⟩ := firstFree_spec base taken
  exact made ▸ isIdentifierChar_of_mem_candidate h k

theorem isIdentifierChar_of_mem_slugify {cs : List Char} : ∀ c ∈ slugify cs, isIdentifierChar c = true := by
  intro c hc
  simp [isIdentifierChar, isAsciiAlphanumeric_of_mem_slugify hc]

theorem isIdentifierChar_of_mem_viewIdentity (name : String) (existing : List String) :
    ∀ c ∈ (viewIdentity name existing).toList, isIdentifierChar c = true := by
  refine isIdentifierChar_of_mem_firstFree (fun c hc => ?_) existing
  split at hc
  · exact List.all_eq_true.1 (show "view".toList.all isIdentifierChar = true from rfl) c hc
  · rw [String.toList_ofList] at hc
    exact isIdentifierChar_of_mem_slugify c hc

theorem isIdentifierChar_of_mem_elementIdentity (kind : ElementKind) (name : String) (existing : List String) :
    ∀ c ∈ (elementIdentity kind name existing).toList, isIdentifierChar c = true := by
  have label : (kind.label.toList.filter (!isBlank ·)).all isIdentifierChar = true := by cases kind <;> decide
  have unnamed : "Unnamed".toList.all isIdentifierChar = true := by decide
  refine isIdentifierChar_of_mem_firstFree (fun c hc => ?_) existing
  rw [String.toList_ofList] at hc
  rcases List.mem_append.1 hc with slug | rest
  · split at slug
    · exact List.all_eq_true.1 unnamed c slug
    · exact isIdentifierChar_of_mem_slugify c slug
  · rcases List.mem_cons.1 rest with rfl | rest
    · rfl
    · exact List.all_eq_true.1 label c rest

theorem candidate_ne_empty {base : String} (h : base ≠ "") (k : Nat) : candidate base k ≠ "" := by
  unfold candidate
  split
  · exact h
  · simp [h]

theorem viewIdentity_ne_empty (name : String) (existing : List String) : viewIdentity name existing ≠ "" := by
  unfold viewIdentity
  obtain ⟨k, made, _⟩ := firstFree_spec
    (if (slugify name.toList).isEmpty then "view" else String.ofList (slugify name.toList)) existing
  rw [made]
  refine candidate_ne_empty ?_ k
  split
  · decide
  · next slug => simpa using slug

namespace IdSource

/-- Every id has a hyphen. -/
def Hyphened (ids : IdSource) : Prop := ∀ n, '-' ∈ (ids n).toList

variable {ids : IdSource}

theorem Hyphened.spent_viewIdentity (h : ids.Hyphened) (drawn : Nat) (name : String) (existing : List String) :
    ids.Spent drawn (viewIdentity name existing) := by
  intro n _ made
  have hyphen := isIdentifierChar_of_mem_viewIdentity name existing '-' (made ▸ h n)
  exact absurd hyphen (by decide)

/-- The ids of a seed are drawn in groups. -/
theorem hyphened_seeded (seed : Nat) : (seeded seed).Hyphened := by
  intro n
  simp [seeded, seededText]

end IdSource

end Blueprint
