/-
  Blueprint.Model.Descent — everything nested under an element (`Workspace.descendant_ids`).

  `Workspace.descendants` follows child links from an element, at any depth, through cycles and
  repeated ids: the ids found so far are kept, and only an id that is not among them is followed
  further, so each search step either finds a new id or shortens the frontier.

  Proved: what a step finds was not found before and is the id of an element (`mem_freshChildren`).
-/

import Blueprint.Model.Workspace

namespace Blueprint

/-- The ids of the children of `parent` that are not among `found`, each once. -/
def freshChildren (elements : List Element) (found : List String) (parent : Option String) : List String :=
  ((elements.filter fun e => e.parentId == parent && !found.contains e.id).map (·.id)).eraseDups

theorem mem_freshChildren {elements : List Element} {found : List String} {parent : Option String} {id : String} :
    id ∈ freshChildren elements found parent ↔ ∃ e ∈ elements, e.parentId = parent ∧ e.id = id ∧ id ∉ found := by
  simp only [freshChildren, List.mem_eraseDups, List.mem_map, List.mem_filter, Bool.and_eq_true, beq_iff_eq,
    Bool.not_eq_true', List.contains_eq_mem, decide_eq_false_iff_not]
  constructor
  · rintro ⟨e, ⟨he, hp, hf⟩, rfl⟩; exact ⟨e, he, hp, rfl, hf⟩
  · rintro ⟨e, he, hp, rfl, hf⟩; exact ⟨e, ⟨he, hp, hf⟩, rfl⟩

/-- How many elements have an id that is not found yet. -/
def missing (elements : List Element) (found : List String) : Nat :=
  elements.countP fun e => !found.contains e.id

theorem countP_lt_of_imp {α : Type} {p q : α → Bool} {xs : List α} {a : α} (ha : a ∈ xs) (hq : q a = true)
    (hp : p a = false) (imp : ∀ x, p x = true → q x = true) : xs.countP p < xs.countP q := by
  induction xs with
  | nil => cases ha
  | cons x xs ih =>
    have le : xs.countP p ≤ xs.countP q := List.countP_mono_left fun y _ => imp y
    rw [List.countP_cons, List.countP_cons]
    rcases List.mem_cons.1 ha with rfl | ha
    · simp [hq, hp]; omega
    · have := ih ha
      have step : (if p x = true then 1 else 0) ≤ (if q x = true then 1 else 0) := by
        by_cases h : p x = true
        · simp [h, imp x h]
        · simp [h]
      omega

theorem missing_lt {elements : List Element} {found fresh : List String} {id : String} {e : Element}
    (he : e ∈ elements) (hid : e.id = id) (hnew : id ∉ found) (hmem : id ∈ fresh) :
    missing elements (found ++ fresh) < missing elements found := by
  apply countP_lt_of_imp he
  · simpa [hid] using hnew
  · simp [hid, hmem]
  · intro x hx
    simp only [Bool.not_eq_true', List.contains_eq_mem, decide_eq_false_iff_not, List.mem_append, not_or] at hx ⊢
    exact hx.1

/-- Extends `found` by all that is reachable through the frontier. -/
def explore (elements : List Element) (found : List String) (frontier : List (Option String)) : List String :=
  match frontier with
  | [] => found
  | parent :: rest =>
    let fresh := freshChildren elements found parent
    explore elements (found ++ fresh) (fresh.map some ++ rest)
termination_by (missing elements found, frontier.length)
decreasing_by
  cases hfresh : freshChildren elements found parent with
  | nil => simp only [List.append_nil]; exact Prod.Lex.right _ (by simp)
  | cons id ids =>
    apply Prod.Lex.left
    obtain ⟨e, he, _, hid, hnew⟩ := mem_freshChildren.1 (show id ∈ freshChildren elements found parent by simp [hfresh])
    exact missing_lt he hid hnew (by simp)

/-- The ids of all elements nested under an element, or under the top. -/
def Workspace.descendants (ws : Workspace) (root : Option String) : List String :=
  explore ws.elements [] [root]

end Blueprint
