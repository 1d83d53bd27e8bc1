/-
  Blueprint.Proofs.Related — lists that are related member by member.

  Proved: what two related lists say of each other's members (`forall₂_iff_forall_mem`,
  `exists_of_mem_right`).
-/

import Mathlib.Data.List.Forall2

namespace Blueprint

variable {α β : Type} {R Q : α → β → Prop} {P : α → Prop} {as : List α} {bs : List β}

/-- Between lists that correspond, what comes down to the members on the left. -/
theorem forall₂_iff_forall_mem (h : List.Forall₂ R as bs) (same : ∀ a b, a ∈ as → R a b → (Q a b ↔ P a)) :
    List.Forall₂ Q as bs ↔ ∀ a ∈ as, P a := by
  induction h with
  | nil => simp
  | @cons a b as bs here _ ih =>
    rw [List.forall₂_cons, List.forall_mem_cons, same a b List.mem_cons_self here,
      ih fun a b ha => same a b (List.mem_cons_of_mem _ ha)]

theorem exists_of_mem_right (h : List.Forall₂ R as bs) {b : β} (hb : b ∈ bs) : ∃ a ∈ as, R a b := by
  induction h with
  | nil => cases hb
  | cons here _ ih =>
    rcases List.mem_cons.1 hb with rfl | hb
    · exact ⟨_, List.mem_cons_self, here⟩
    · obtain ⟨a, ha, related⟩ := ih hb
      exact ⟨a, List.mem_cons_of_mem _ ha, related⟩

end Blueprint
