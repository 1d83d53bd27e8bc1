/-
  Blueprint.Proofs.Edit.Subtree — an element together with all that is nested in it (`delete_element`, and
  `update_element` with another parent).

  What is within an element is decided by the search for its descendants, also where the links form no
  forest. A deleted element takes along what is within it, the relationships that end there and the views that
  are about any of that. An element may move under any other but those within it.

  Proved: a deleted element takes just that along (`deleteElement_spares`), and an element may move just where
  it does not come to be inside itself (`updateElement_moves_iff`).
-/

import Blueprint.Proofs.Edit.Applied

namespace Blueprint

open Relation

/-- The view is about something with such an id: by an anchor, or by its key if it is a deployment view. -/
def View.IsAbout (p : String → Prop) (v : View) : Prop :=
  (∃ id ∈ v.softwareSystemId, p id) ∨ (∃ id ∈ v.containerId, p id) ∨
    (v.kind = .deployment ∧ ∃ id, p id ∧ v.key = deploymentViewKey id)

namespace Workspace

variable {ws : Workspace} {root id : String}

theorem isAbout_iff {removed : List String} {v : View} : isAbout removed v = true ↔ v.IsAbout (· ∈ removed) := by
  have anchored : ∀ anchor : Option String, anchor.any removed.contains = true ↔ ∃ id ∈ anchor, id ∈ removed := by
    intro anchor
    cases anchor <;> simp
  have keyed : (removed.map deploymentViewKey).contains v.key = true ↔
      ∃ id, id ∈ removed ∧ v.key = deploymentViewKey id := by
    simp [eq_comm]
  simp only [isAbout, View.IsAbout, Bool.or_eq_true, Bool.and_eq_true, beq_iff_eq, anchored, keyed, or_assoc]

theorem isAbout_withDescendants {v : View} :
    isAbout (ws.withDescendants root) v = true ↔ v.IsAbout (ws.IsWithin root) := by
  simp only [isAbout_iff, mem_withDescendants]

instance (ws : Workspace) (root id : String) : Decidable (ws.IsWithin root id) :=
  decidable_of_iff _ mem_withDescendants

instance (ws : Workspace) (root : String) (v : View) : Decidable (v.IsAbout (ws.IsWithin root)) :=
  decidable_of_iff _ isAbout_withDescendants

/-! ## Deleting -/

/-- The workspace but for what has such an id, ends at one or is about one. -/
def sparing (p : String → Prop) [DecidablePred p] [DecidablePred (View.IsAbout p)] (ws : Workspace) : Workspace :=
  { ws with
    elements := ws.elements.filter fun e => ¬ p e.id
    relationships := ws.relationships.filter fun r => ¬ p r.sourceId ∧ ¬ p r.targetId
    views := ws.views.filter fun v => ¬ v.IsAbout p }

theorem without_withDescendants (ws : Workspace) (root : String) :
    ws.without (ws.withDescendants root) = ws.sparing (ws.IsWithin root) := by
  have gone : ∀ id, (ws.withDescendants root).contains id = decide (ws.IsWithin root id) := by
    intro id
    rw [List.contains_eq_mem, decide_eq_decide]
    exact mem_withDescendants
  have about : ∀ v, isAbout (ws.withDescendants root) v = decide (v.IsAbout (ws.IsWithin root)) := by
    intro v
    rw [Bool.eq_iff_iff, decide_eq_true_iff]
    exact isAbout_withDescendants
  simp only [without, sparing, gone, about, decide_not, Bool.decide_and]

theorem requireElement_of_mem (h : id ∈ ws.elementIds) : ∃ e, ws.requireElement id = .ok e := by
  obtain ⟨e, he, rfl⟩ := mem_elementIds.1 h
  have found : (ws.element? e.id).isSome := List.find?_isSome.2 ⟨e, he, beq_self_eq_true _⟩
  obtain ⟨f, hf⟩ := Option.isSome_iff_exists.1 found
  exact ⟨f, by rw [requireElement, hf]⟩

theorem deleteElement_spares (h : id ∈ ws.elementIds) :
    ws.deleteElement id = .ok (ws.sparing (ws.IsWithin id)) ∧
      ((ws.descendants (some id)).Nodup ∧
        ∀ i, i ∈ ws.descendants (some id) ↔ TransGen (IsInside ws.elements) i id) ∧
      ∀ e ∈ (ws.sparing (ws.IsWithin id)).elements, ∀ parent ∈ e.parentId, ¬ ws.IsWithin id parent := by
  refine ⟨?_, ⟨nodup_descendants _ _, fun i => mem_descendants⟩, ?_⟩
  · obtain ⟨e, he⟩ := requireElement_of_mem h
    rw [deleteElement, he, ← without_withDescendants]
    rfl
  · intro e he parent hp within
    obtain ⟨mem, stays⟩ := List.mem_filter.1 he
    exact of_decide_eq_true stays (within.child ⟨e, mem, rfl, hp⟩)

/-- A system and its container are inside each other, two elements have one id, and a parent is missing. -/
def tangled : Workspace :=
  { name := "Tangled", description := ""
    elements := [{ id := "shop", kind := .softwareSystem, name := "Shop", parentId := some "desk" },
      { id := "desk", kind := .container, name := "Desk", parentId := some "shop" },
      { id := "till", kind := .component, name := "Till", parentId := some "desk" },
      { id := "till", kind := .deploymentNode, name := "Spare till" },
      { id := "bank", kind := .softwareSystem, name := "Bank", parentId := some "ghost" },
      { id := "vault", kind := .container, name := "Vault", parentId := some "bank" }]
    relationships := [{ id := "pays", sourceId := "till", targetId := "bank" },
      { id := "keeps", sourceId := "bank", targetId := "vault" }]
    views := [landscapeView landscapeDescription,
      { id := "a", key := "view-bank", kind := .container, softwareSystemId := some "bank" },
      { id := "b", key := "components-desk", kind := .component, containerId := some "desk" },
      { id := "c", key := "deploy-till", kind := .deployment },
      { id := "d", key := "deploy-vault", kind := .deployment }] }

theorem deleteElement_spares_tangled :
    "shop" ∈ tangled.elementIds ∧ ∃ after, tangled.deleteElement "shop" = .ok after ∧
      after.elementIds = ["bank", "vault"] ∧ after.relationships.map (·.id) = ["keeps"] ∧
      after.views.map (·.key) = ["landscape", "view-bank", "deploy-vault"] := by
  have known : "shop" ∈ tangled.elementIds := by decide
  exact ⟨known, _, (deleteElement_spares known).1, by cbv, by cbv, by cbv⟩

/-! ## Moving -/

/-- The workspace with another parent for an element. -/
def movedUnder (ws : Workspace) (id parent : String) : Workspace :=
  { ws with elements := ws.elements.map fun e => if e.id = id then { e with parentId := some parent } else e }

variable {parent : String}

theorem isInside_movedUnder {child above : String} : IsInside (ws.movedUnder id parent).elements child above ↔
    (child ≠ id ∧ IsInside ws.elements child above) ∨ (child = id ∧ above = parent ∧ id ∈ ws.elementIds) := by
  constructor
  · rintro ⟨f, hf, rfl, hp⟩
    obtain ⟨e, he, rfl⟩ := List.mem_map.1 hf
    by_cases here : e.id = id
    · simp only [here, if_true, Option.some.injEq] at hp ⊢
      exact .inr ⟨trivial, hp.symm, mem_elementIds.2 ⟨e, he, here⟩⟩
    · simp only [here, if_false] at hp ⊢
      exact .inl ⟨here, e, he, rfl, hp⟩
  · rintro (⟨other, e, he, rfl, hp⟩ | ⟨rfl, rfl, known⟩)
    · exact ⟨e, List.mem_map.2 ⟨e, he, if_neg other⟩, rfl, hp⟩
    · obtain ⟨e, he, rfl⟩ := mem_elementIds.1 known
      exact ⟨{ e with parentId := some above }, List.mem_map.2 ⟨e, he, if_pos rfl⟩, rfl, rfl⟩

/-- What leads to the element does not pass through it, so it is still there after the move. -/
theorem leads_movedUnder {below : String} (h : ReflTransGen (IsInside ws.elements) below id) :
    ReflTransGen (IsInside (ws.movedUnder id parent).elements) below id := by
  induction h using ReflTransGen.head_induction_on with
  | refl => exact .refl
  | @head c _ link _ ih =>
    by_cases here : c = id
    · exact here ▸ .refl
    · exact ih.head (isInside_movedUnder.2 (.inl ⟨here, link⟩))

theorem acyclic_movedUnder_iff (acyclic : Acyclic ws.elements) (known : id ∈ ws.elementIds) :
    Acyclic (ws.movedUnder id parent).elements ↔ ¬ ws.IsWithin id parent := by
  rw [isWithin_iff]
  constructor
  · intro after within
    exact after id (.head' (isInside_movedUnder.2 (.inr ⟨rfl, rfl, known⟩)) (leads_movedUnder within))
  · intro outside
    refine acyclic.insert (fun c p link => ?_) outside
    exact (isInside_movedUnder.1 link).imp And.right fun new => ⟨new.1, new.2.1⟩

theorem checkNesting_eq (h : parent ∈ ws.elementIds) :
    ws.checkNesting id parent = if ws.IsWithin id parent then .error .nestedInItself else .ok () := by
  obtain ⟨e, he⟩ := requireElement_of_mem h
  simp only [checkNesting, he, IsWithin, ← mem_descendants]
  rfl

theorem updateElement_parent (distinct : ws.elementIds.Nodup) {e : Element} (he : e ∈ ws.elements)
    (hp : parent ∈ ws.elementIds) : ws.updateElement e.id { parentId := some (some parent) } =
      if ws.IsWithin e.id parent then .error .nestedInItself else .ok (ws.movedUnder e.id parent) := by
  have found : ws.requireElement e.id = .ok e := by
    rw [requireElement, element?, find?_id_of_mem distinct he]
  have moved : ws.replaceElement e.id (({ parentId := some (some parent) } : ElementUpdate).apply e) =
      ws.movedUnder e.id parent := replaceElement_eq distinct he _
  rw [← moved]
  simp only [updateElement, found, checkNesting_eq hp]
  split <;> rfl

theorem updateElement_moves_iff (distinct : ws.elementIds.Nodup) (acyclic : Acyclic ws.elements) {e : Element}
    (he : e ∈ ws.elements) (hp : parent ∈ ws.elementIds) :
    (ws.updateElement e.id { parentId := some (some parent) } = .error .nestedInItself ↔
        ¬ Acyclic (ws.movedUnder e.id parent).elements) ∧
      ∀ after, ws.updateElement e.id { parentId := some (some parent) } = .ok after ↔
        after = ws.movedUnder e.id parent ∧ Acyclic after.elements := by
  have stays : Acyclic (ws.movedUnder e.id parent).elements ↔ ¬ ws.IsWithin e.id parent :=
    acyclic_movedUnder_iff acyclic (mem_elementIds.2 ⟨e, he, rfl⟩)
  rw [updateElement_parent distinct he hp]
  by_cases within : ws.IsWithin e.id parent
  · rw [if_pos within]
    refine ⟨iff_of_true rfl fun still => stays.1 still within, fun after => iff_of_false (by simp) ?_⟩
    rintro ⟨rfl, still⟩
    exact stays.1 still within
  · rw [if_neg within]
    have still := stays.2 within
    refine ⟨iff_of_false (by simp) (not_not_intro still), fun after => ⟨fun done => ?_, fun same => ?_⟩⟩
    · cases done
      exact ⟨rfl, still⟩
    · rw [same.1]

/-- A component in a container in a system, the innermost in front, and another system. -/
def stacked : Workspace :=
  { name := "Stacked", description := ""
    elements := [{ id := "till", kind := .component, name := "Till", parentId := some "desk" },
      { id := "desk", kind := .container, name := "Desk", parentId := some "shop" },
      { id := "shop", kind := .softwareSystem, name := "Shop" },
      { id := "bank", kind := .softwareSystem, name := "Bank" }] }

theorem updateElement_moves_iff_stacked :
    (stacked.elementIds.Nodup ∧ Acyclic stacked.elements) ∧
      stacked.updateElement "shop" { parentId := some (some "till") } = .error .nestedInItself ∧
      stacked.updateElement "desk" { parentId := some (some "bank") } = .ok (stacked.movedUnder "desk" "bank") := by
  have distinct : stacked.elementIds.Nodup := by decide
  have acyclic : Acyclic stacked.elements := by decide_cbv
  have inside : ¬ Acyclic (stacked.movedUnder "shop" "till").elements := by decide_cbv
  have apart : Acyclic (stacked.movedUnder "desk" "bank").elements := by decide_cbv
  refine ⟨⟨distinct, acyclic⟩, ?_, ?_⟩
  · exact (updateElement_moves_iff (e := stacked.elements[2]) distinct acyclic (by simp) (by decide)).1.2 inside
  · obtain ⟨_, moves⟩ := updateElement_moves_iff (e := stacked.elements[1]) distinct acyclic (by simp)
      (show "bank" ∈ stacked.elementIds by decide)
    exact (moves _).2 ⟨rfl, apart⟩

end Workspace

end Blueprint
