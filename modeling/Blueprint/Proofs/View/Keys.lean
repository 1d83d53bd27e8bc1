/-
  Blueprint.Proofs.View.Keys — keys that are written as they are.

  A document holds the key of a view without whatever is no key character, so a key comes through whole
  just if it consists of such characters, and is still a key if it is not empty. The keys that are made for
  views, from a text that is asked for, from a name or from the id of an element, are of this sort.

  Proved: what it takes for a key to stay as it is (`sanitizeKeyText_eq_self_iff`) and that it is then written
  so (`IsKey.viewHeader_eq`); covering a workspace gives its new views such keys if its elements have ids of
  key characters (`isKey_cover`).
-/

import Blueprint.Dsl.Writer
import Blueprint.Edit.Views
import Blueprint.Proofs.Identifier.ViewName
import Blueprint.Proofs.View.Coverage

namespace Blueprint

open Text

/-- A text of key characters. -/
def IsKeyText (s : String) : Prop := ∀ c ∈ s.toList, isKeyChar c = true

instance (s : String) : Decidable (IsKeyText s) := List.decidableBAll _ _

/-- A key that stays as it is, and says something. -/
structure IsKey (key : String) : Prop where
  some : key ≠ ""
  same : sanitizeKeyText key = key

theorem isKeyText_sanitizeKeyText (s : String) : IsKeyText (sanitizeKeyText s) := by
  intro c hc
  rw [sanitizeKeyText, String.toList_ofList] at hc
  exact isKeyChar_of_mem_sanitizeKey hc

theorem sanitizeKeyText_eq_self_iff {s : String} : sanitizeKeyText s = s ↔ IsKeyText s := by
  constructor
  · intro same
    exact same ▸ isKeyText_sanitizeKeyText s
  · intro chars
    rw [sanitizeKeyText, sanitizeKey_eq_self chars, String.ofList_toList]

namespace IsKeyText

variable {s t : String}

theorem append (h : IsKeyText s) (ht : IsKeyText t) : IsKeyText (s ++ t) := by
  intro c hc
  rw [String.toList_append] at hc
  exact (List.mem_append.1 hc).elim (h c) (ht c)

theorem of_identifier (h : ∀ c ∈ s.toList, isIdentifierChar c = true) : IsKeyText s :=
  fun c hc => isKeyChar_of_identifierChar (h c hc)

theorem isKey (h : IsKeyText s) (some : s ≠ "") : IsKey s := ⟨some, sanitizeKeyText_eq_self_iff.2 h⟩

theorem natText (n : Nat) : IsKeyText (natText n) := by
  refine of_identifier fun c hc => ?_
  rw [toList_natText] at hc
  exact isIdentifierChar_of_digit (isAsciiDigit_of_mem_natDigits hc)

end IsKeyText

/-- A key with something behind it. -/
theorem IsKey.append {front s : String} (h : IsKey front) (hs : IsKeyText s) : IsKey (front ++ s) :=
  ((sanitizeKeyText_eq_self_iff.1 h.same).append hs).isKey (by simp [h.some])

/-! ## Keys that are made -/

theorem isKey_landscapeId : IsKey landscapeId := by constructor <;> decide

theorem isKey_viewKeyFor (asked : String) : IsKey (viewKeyFor asked) := by
  unfold viewKeyFor
  dsimp only
  split
  · constructor <;> decide
  · next some => exact (isKeyText_sanitizeKeyText asked).isKey some

theorem isKey_viewIdentity (name : String) (existing : List String) : IsKey (viewIdentity name existing) :=
  (IsKeyText.of_identifier (isIdentifierChar_of_mem_viewIdentity name existing)).isKey (viewIdentity_ne_empty _ _)

theorem isKeyText_elementIdentity (kind : ElementKind) (name : String) (existing : List String) :
    IsKeyText (elementIdentity kind name existing) :=
  .of_identifier (isIdentifierChar_of_mem_elementIdentity kind name existing)

theorem isKey_containerViewKey {id : String} (h : IsKeyText id) : IsKey (containerViewKey id) :=
  .append (by constructor <;> decide) h

theorem isKey_componentViewKey {id : String} (h : IsKeyText id) : IsKey (componentViewKey id) :=
  .append (by constructor <;> decide) h

theorem isKey_deploymentViewKey {id : String} (h : IsKeyText id) : IsKey (deploymentViewKey id) :=
  .append (by constructor <;> decide) h

/-- The key of a view that is declared without any that is left after cleaning. -/
theorem isKey_numbered (kind : ViewKind) (n : Nat) : IsKey (kind.keyword ++ "-" ++ natText n) :=
  .append (.append (by cases kind <;> constructor <;> decide) (by decide)) (.natText n)

/-! ## Covering -/

namespace Workspace

theorem key_coverLandscape {ws : Workspace} {v : View} (h : v ∈ ws.coverLandscape.views) :
    v ∈ ws.views ∨ v.key = landscapeId := by
  unfold coverLandscape at h
  split at h
  · exact .inl h
  · rcases List.mem_cons.1 h with rfl | old
    · exact .inr (by split <;> rfl)
    · exact .inl old

theorem isKey_cover {ids : IdSource} {drawn : Nat} {ws : Workspace} (elements : ∀ e ∈ ws.elements, IsKeyText e.id)
    (views : ∀ v ∈ ws.views, IsKey v.key) : ∀ v ∈ (ws.cover ids drawn).1.views, IsKey v.key := by
  intro v hv
  rcases mem_cover hv with old | ⟨e, he, id, rfl⟩ | ⟨e, he, id, rfl⟩
  · rcases key_coverLandscape old with old | root
    · exact views v old
    · exact root ▸ isKey_landscapeId
  · exact isKey_containerViewKey (elements e he)
  · exact isKey_deploymentViewKey (elements e he)

end Workspace

/-! ## Keys in documents -/

/-- The header of a view has its very key. -/
theorem IsKey.viewHeader_eq {v : View} (h : IsKey v.key) (anchor : List Char) :
    Dsl.viewHeader v anchor = v.kind.keyword.toList ++ ' ' :: anchor ++ quote v.key.toList ++
      ' ' :: quote v.description.toList := by
  rw [Dsl.viewHeader, sanitizeKey_eq_self (sanitizeKeyText_eq_self_iff.1 h.same)]

end Blueprint
