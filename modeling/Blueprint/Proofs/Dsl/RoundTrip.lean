/-
  Blueprint.Proofs.Dsl.RoundTrip — a workspace is read from its document as it was (`generate_dsl` and then
  `parse_dsl`).

  The elements come back from top to bottom, each with the same data and below the copy of its parent,
  with ids of their own; groups come back by their names. The relationships between elements that are no
  groups come back in their order, between the copies of their ends.

  Proved: a workspace that can be written is written, and where the braces of its document balance it is
  read again, the same but for its ids (`parse_document`).
-/

import Blueprint.Proofs.Dsl.ModelSection
import Blueprint.Proofs.Dsl.Soundness

namespace Blueprint

open Text Dsl

/-- The elements from top to bottom: a root, all that is nested in it, and the later roots. -/
inductive Workspace.Preorder (ws : Workspace) : List Element → List Element → Prop
  | nil : ws.Preorder [] []
  | cons {e : Element} {roots inner later : List Element} :
      ws.Preorder (ws.childrenOf (some e.id)) inner → ws.Preorder roots later →
        ws.Preorder (e :: roots) (e :: (inner ++ later))

/-- The same element but for its id, its parent's id and its place. Of a group only kind, name and parent count. -/
structure Element.Copies (rename : String → String) (e c : Element) : Prop where
  id : c.id = rename e.id
  kind : c.kind = e.kind
  name : c.name = e.name
  parentId : c.parentId = e.parentId.map rename
  description : e.kind ≠ .group → c.description = e.description
  technology : e.kind ≠ .group → c.technology = e.technology
  tags : e.kind ≠ .group → c.tags = e.tags
  isExternal : e.kind ≠ .group → c.isExternal = e.isExternal

/-- The same element at the same place of the forest. -/
structure Element.Mirrors (rename : String → String) (e c : Element) : Prop where
  id : c.id = rename e.id
  kind : c.kind = e.kind
  name : c.name = e.name
  parentId : c.parentId = e.parentId.map rename

namespace Dsl

variable {ws : Workspace} {ids : IdSource} {rename : String → String} {b : Builder}

theorem preorder_of_grown {trees : List Tree} {roots : List Element} (h : Grown ws.elements trees roots) :
    ws.Preorder roots (Tree.preorderAll trees) := by
  induction h with
  | nil => exact .nil
  | cons _ _ ihNested ih =>
    rw [Tree.preorderAll, Tree.preorder, List.cons_append]
    exact .cons ihNested ih

theorem nestedIn_none_eq (parents : ∀ e ∈ ws.elements, ∀ p, e.parentId = some p → p ∈ ws.elementIds) :
    nestedIn ws.elements none = ws.childrenOf none := by
  refine List.filter_congr fun e he => ?_
  cases hp : e.parentId with
  | none => rfl
  | some p =>
    have known : ws.elements.any (·.id == p) = true := by
      obtain ⟨f, hf, same⟩ := List.mem_map.1 (parents e he p hp)
      exact List.any_eq_true.2 ⟨f, hf, by simpa using same⟩
    simp [known]

/-- The elements of a document stand from top to bottom. -/
theorem preorder_forest (h : ws.IsLegible) : ws.Preorder (ws.childrenOf none) (Tree.preorderAll ws.forest) := by
  rw [← nestedIn_none_eq h.parents]
  exact preorder_of_grown h.grown

theorem exists_drawn_of_mem {n : Nat} {es : List Element} (h : Draws ids rename n es) {e : Element}
    (he : e ∈ es) :
    ∃ k, rename e.id = ids k := by
  induction es generalizing n with
  | nil => cases he
  | cons f es ih =>
    rcases List.mem_cons.1 he with rfl | he
    · exact ⟨n, h.1⟩
    · exact ih h.2 he

theorem id_ne_empty (hids : ids.Fresh) {n : Nat} {es : List Element} (draws : Draws ids rename n es) {e : Element}
    (he : e ∈ es) : rename e.id ≠ "" := by
  obtain ⟨k, drawn⟩ := exists_drawn_of_mem draws he
  rw [drawn]
  exact hids.ne_empty k

/-- An identifier leads to the copy of its element. -/
theorem HoldsModel.resolve (h : HoldsModel rename ws b) (hl : ws.IsLegible) {e : Element} (he : e ∈ ws.elements)
    (hk : e.kind ≠ .group) {i : String} (hi : (Allocation.ofElements ws.elements).get? e.id = some i) :
    b.table.resolve i = some (rename e.id) :=
  h.table.resolve hl.named.injective ((perm_preorder_forest hl.ids hl.acyclic).mem_iff.2 he) hk hi
    (word_of_get? hl.named hi)

/-- What holds between each element and its copy, with the index of the copy. -/
theorem forall₂_zipIdx_mapIdx {S : Element → PendingElement → Prop} {R : Element × Nat → Element → Prop}
    {es : List Element} {ps : List PendingElement} (h : List.Forall₂ S es ps) (f : Nat → PendingElement → Element)
    (keep : ∀ i e p, e ∈ es → S e p → R (e, i) (f i p)) (n : Nat) :
    List.Forall₂ R (es.zipIdx n) (ps.mapIdx fun i => f (n + i)) := by
  induction h generalizing n with
  | nil => exact .nil
  | @cons e p es ps here _ ih =>
    have next : (fun i => f (n + (i + 1))) = fun i => f (n + 1 + i) := by
      funext i
      rw [Nat.add_assoc, Nat.add_comm 1 i]
    rw [List.zipIdx_cons, List.mapIdx_cons, next]
    exact .cons (keep n e p List.mem_cons_self here)
      (ih (fun i e p he => keep i e p (List.mem_cons_of_mem _ he)) (n + 1))

namespace HoldsModel

theorem forall₂_zipIdx_elements (h : HoldsModel rename ws b) (hl : ws.IsLegible) {R : Element × Nat → Element → Prop}
    (keep : ∀ i e p, e ∈ ws.elements → PendingElement.Reads (Allocation.ofElements ws.elements) rename e p →
      R (e, i) (b.elementOf i p)) :
    List.Forall₂ R (Tree.preorderAll ws.forest).zipIdx b.buildElements := by
  have all := forall₂_zipIdx_mapIdx h.elements b.elementOf
    (fun i e p he => keep i e p ((perm_preorder_forest hl.ids hl.acyclic).mem_iff.1 he)) 0
  simpa [Builder.buildElements] using all

theorem forall₂_elements (h : HoldsModel rename ws b) (hl : ws.IsLegible) {R : Element → Element → Prop}
    (keep : ∀ i e p, e ∈ ws.elements → PendingElement.Reads (Allocation.ofElements ws.elements) rename e p →
      R e (b.elementOf i p)) :
    List.Forall₂ R (Tree.preorderAll ws.forest) b.buildElements := by
  have indexed := h.forall₂_zipIdx_elements hl (R := fun e => R e.1) keep
  rw [← List.forall₂_map_left_iff, List.zipIdx_map_fst] at indexed
  exact indexed

end HoldsModel

namespace Retells

theorem elements_copies (h : Retells rename ws b) :
    List.Forall₂ (Element.Copies rename) (Tree.preorderAll ws.forest) b.buildElements := by
  refine h.forall₂_elements h.writable.isLegible fun i e p he read => ?_
  have hw := h.writable.elements e he
  refine ⟨read.id, read.kind, read.name, read.parentId, read.description, fun hk => ?_, fun hk => ?_, fun hk => ?_⟩
  · exact (read.technology hk).trans (readTechnology_eq hw hk)
  · exact (read.tags hk).trans (by rw [readTags_eq hw hk, filter_elementTags hw hk])
  · exact (read.isExternal hk).trans (by rw [readTags_eq hw hk, contains_elementTags hw hk])

/-- An end of a relationship leads to the copy of its element. -/
theorem idOf?_eq (h : Retells rename ws b) (hids : ids.Fresh) (hw : ws.IsWritable) {n : Nat}
    (draws : Draws ids rename n (Tree.preorderAll ws.forest)) {id i : String} (can : ws.canEnd id = true)
    (hi : (Allocation.ofElements ws.elements).get? id = some i) : b.idOf? i = some (rename id) := by
  obtain ⟨e, he, rfl, hk⟩ := canEnd_iff.1 can
  have inForest : e ∈ Tree.preorderAll ws.forest := (perm_preorder_forest hw.ids hw.acyclic).mem_iff.2 he
  rw [Builder.idOf?, h.resolve hw.isLegible he hk hi, Option.bind_some, if_neg (id_ne_empty hids draws inForest)]

theorem relationships_copies (h : Retells rename ws b) (hids : ids.Fresh) (hw : ws.IsWritable) {n : Nat}
    (draws : Draws ids rename n (Tree.preorderAll ws.forest)) :
    List.Forall₂ (Relationship.Copies rename) (ws.relationships.filter ws.connects)
      (b.build ids).workspace.relationships := by
  rw [Builder.build_relationships]
  refine Builder.copies_resolveRelationships h.relationships (fun r hr => ?_) (fun r hr i => ?_) b.drawn
  · obtain ⟨member, connects⟩ := List.mem_filter.1 hr
    exact hw.relationships r member connects
  · obtain ⟨source, target⟩ := Bool.and_eq_true_iff.1 (List.mem_filter.1 hr).2
    exact ⟨h.idOf?_eq hids hw draws source, h.idOf?_eq hids hw draws target⟩

theorem heading_build (ids : IdSource) (h : Retells rename ws b) (hw : ws.IsWritable) :
    (b.build ids).workspace.name = ws.name ∧ (b.build ids).workspace.description = ws.description := by
  obtain ⟨_, _, eq⟩ := (b.uncovered ids).cover_eq_append ids (b.drawnForAll ids)
  rw [Builder.build_workspace, eq]
  refine ⟨?_, ?_⟩
  · show b.name = ws.name
    rw [Builder.name, h.heading]
    exact if_neg hw.name.1
  · show (b.heading.map (·.2)).getD "" = ws.description
    rw [h.heading]
    rfl

end Retells

/-- A workspace that can be written comes back from its document the same, but for the ids. -/
theorem parse_document (hids : ids.Fresh) (drawn : Nat) (h : ws.IsWritable) :
    ∃ text, document ws = .ok text ∧ ((braceCounts text).1 = (braceCounts text).2 →
      ∃ p, parse ids drawn text = .ok p ∧ p.workspace.name = ws.name ∧ p.workspace.description = ws.description ∧
        ∃ order rename, ws.Preorder (ws.childrenOf none) order ∧ order.Perm ws.elements ∧
          List.Forall₂ (Element.Copies rename) order p.workspace.elements ∧ p.workspace.elementIds.Nodup ∧
          List.Forall₂ (Relationship.Copies rename) (ws.relationships.filter ws.connects) p.workspace.relationships) := by
  have indent : IsIndent usualStep := by decide
  have perm := perm_preorder_forest h.ids h.acyclic
  have distinct : ((Tree.preorderAll ws.forest).map (·.id)).Nodup := (perm.map _).nodup_iff.2 h.ids
  obtain ⟨rename, draws⟩ := exists_draws ids drawn distinct
  refine ⟨_, write_eq h.positions usualStep, fun balanced => ⟨_, parse_of_balanced ids drawn balanced, ?_⟩⟩
  have retells := Builder.retells_document indent h drawn draws
  have sound := Builder.sound_feedAll hids drawn
    (tokenize (String.ofList ((Outline.block (workspaceHeader ws) (workspaceParts ws)).text usualStep)))
  generalize Builder.feedAll ids _ _ = b at retells sound
  obtain ⟨name, description⟩ := retells.heading_build ids h
  refine ⟨name, description, Tree.preorderAll ws.forest, rename, ?_, perm, ?_, (sound.integrity hids).elementIds,
    retells.relationships_copies hids h draws⟩
  · rw [← nestedIn_none_eq h.parents]
    exact preorder_of_grown h.grown
  · rw [Builder.build_elements]
    exact retells.elements_copies

/-- A system with a container in a group, and a person who uses the container. -/
def shop : Workspace :=
  { name := "Shop", description := "Online \"shop\""
    elements :=
      [{ id := "shop", kind := .softwareSystem, name := "Shop", tags := ["Core"] },
        { id := "front", kind := .group, name := "Front end", parentId := some "shop" },
        { id := "w-1", kind := .container, name := "Web", technology := some "React", parentId := some "front" },
        { id := "user", kind := .person, name := "User", isExternal := true }]
    relationships :=
      [{ id := "r", sourceId := "user", targetId := "w-1", description := "Browses",
         technology := some "HTTPS" }]
    views := [landscapeView "All"] }

theorem isWritable_shop : shop.IsWritable where
  ids := by decide
  lastOfId := by decide
  parents := by decide
  acyclic := ParentsFirst.acyclic (by decide) (by decide)
  name := by decide
  description := by decide
  elements := by decide
  relationships := by decide
  views := by decide
  positions := by decide

theorem parse_document_shop :
    ∃ text p, document shop = .ok text ∧ parse IdSource.strokes 0 text = .ok p ∧
      ∃ order rename, shop.Preorder (shop.childrenOf none) order ∧
        List.Forall₂ (Element.Copies rename) order p.workspace.elements ∧
        List.Forall₂ (Relationship.Copies rename) shop.relationships p.workspace.relationships := by
  obtain ⟨text, written, read⟩ := parse_document IdSource.fresh_strokes 0 isWritable_shop
  have balanced : (braceCounts text).1 = (braceCounts text).2 := by
    rw [Except.ok.inj (written.symm.trans (write_eq isWritable_shop.positions usualStep))]
    simp only [braceCounts, String.toList_ofList]
    decide +kernel
  obtain ⟨p, parsed, _, _, order, rename, preorder, _, elements, _, relationships⟩ := read balanced
  have all : shop.relationships.filter shop.connects = shop.relationships := by decide
  exact ⟨text, p, written, parsed, order, rename, preorder, elements, all ▸ relationships⟩

end Dsl

end Blueprint
