/-
  Blueprint.Proofs.Edit.Renaming — an element under a new name and a new id (`rename_element`).

  The id of a renamed element is made of its new name and is none that another element has. Ids stand in five
  places: on the element, at its children, at both ends of relationships and at both anchors of views. In a
  linked workspace every one of them is some element's id, so that the new one captures nothing that referred
  to anything else.

  Proved: the workspace after a rename is the one before with the new id for the old one everywhere, children
  and descendants included, nothing of the old id is left, and a name in between leaves no trace in the
  elements, the relationships and the anchors (`renameElement_isomorphism`).
-/

import Blueprint.Proofs.Edit.Anchors
import Blueprint.Proofs.Related

namespace Blueprint

open Relation

/-! ## Other ids -/

def Element.mapIds (f : String → String) (e : Element) : Element :=
  { e with id := f e.id, parentId := e.parentId.map f }

/-- An element under other ids, with another name if it is the one that is renamed. -/
def Element.renamed (f : String → String) (id newName : String) (e : Element) : Element :=
  { e.mapIds f with name := if e.id = id then newName else e.name }

def Relationship.mapIds (f : String → String) (r : Relationship) : Relationship :=
  { r with sourceId := f r.sourceId, targetId := f r.targetId }

def View.mapIds (f : String → String) (v : View) : View :=
  { v with softwareSystemId := v.softwareSystemId.map f, containerId := v.containerId.map f }

def View.anchors (v : View) : Option String × Option String := (v.softwareSystemId, v.containerId)

section

variable {old new : String}

theorem rekey_self : rekey old new old = new := if_pos rfl

theorem rekey_of_ne {id : String} (other : id ≠ old) : rekey old new id = id := if_neg other

theorem rekey_ne_old (changed : new ≠ old) (id : String) : rekey old new id ≠ old := by
  unfold rekey
  split
  · exact changed
  · next other => exact other

/-- An id in between leaves no trace, if no one else had it. -/
theorem rekey_rekey {between id : String} (free : id ≠ old → id ≠ between) :
    rekey between new (rekey old between id) = rekey old new id := by
  by_cases here : id = old
  · rw [here, rekey_self, rekey_self, rekey_self]
  · rw [rekey_of_ne here, rekey_of_ne (free here), rekey_of_ne here]

end

namespace Workspace

variable {ws after : Workspace} {old new id newName : String} {f : String → String}

theorem rekeyed_eq_renamed {e : Element} (outside : e.parentId ≠ some e.id) :
    e.rekeyed old new newName = e.renamed (rekey old new) old newName := by
  have rest : e.rekeyed old new newName =
      { e with id := (e.rekeyed old new newName).id, name := (e.rekeyed old new newName).name,
               parentId := (e.rekeyed old new newName).parentId } := by
    unfold Element.rekeyed
    split
    · rfl
    · split <;> rfl
  have name : (e.rekeyed old new newName).name = if e.id = old then newName else e.name := by
    unfold Element.rekeyed
    split
    · rfl
    · split <;> rfl
  rw [id_rekeyed, name, parentId_rekeyed newName outside] at rest
  exact rest

theorem view_rekeyed_eq (v : View) :
    v.rekeyed old new = { v.mapIds (rekey old new) with key := (v.rekeyed old new).key } := by
  have rest : v.rekeyed old new =
      { v with softwareSystemId := (v.rekeyed old new).softwareSystemId,
               containerId := (v.rekeyed old new).containerId, key := (v.rekeyed old new).key } := by
    unfold View.rekeyed
    split
    · rfl
    · split <;> rfl
  obtain ⟨system, container⟩ := View.anchors_rekeyed old new v
  rw [system, container] at rest
  exact rest

theorem key_rekeyed_of_ne {v : View} (other : v.kind ≠ .deployment) : (v.rekeyed old new).key = v.key := by
  unfold View.rekeyed
  split
  · rfl
  · rw [if_neg fun deploys => other deploys.1]

/-! ## The same model under other ids -/

/-- Every id and every reference is changed by `f`, the element has its new name, and nothing else is different
but for the keys of deployment views. -/
structure IsRenaming (f : String → String) (id newName : String) (ws after : Workspace) : Prop where
  name : after.name = ws.name
  description : after.description = ws.description
  elements : after.elements = ws.elements.map (Element.renamed f id newName)
  relationships : after.relationships = ws.relationships.map (Relationship.mapIds f)
  views : List.Forall₂ (fun v w => w = { v.mapIds f with key := w.key } ∧ (v.kind ≠ .deployment → w.key = v.key))
    ws.views after.views

/-- Neither an element nor a reference has the id. -/
structure Lacks (ws : Workspace) (id : String) : Prop where
  elements : ∀ e ∈ ws.elements, e.id ≠ id ∧ e.parentId ≠ some id
  relationships : ∀ r ∈ ws.relationships, r.sourceId ≠ id ∧ r.targetId ≠ id
  views : ∀ v ∈ ws.views, v.softwareSystemId ≠ some id ∧ v.containerId ≠ some id

/-- Every id is one element's, every reference is to an element, and no element is inside itself. -/
structure IsLinked (ws : Workspace) : Prop where
  elementIds : ws.elementIds.Nodup
  acyclic : Acyclic ws.elements
  parents : ∀ e ∈ ws.elements, ∀ parent ∈ e.parentId, parent ∈ ws.elementIds
  ends : ∀ r ∈ ws.relationships, r.sourceId ∈ ws.elementIds ∧ r.targetId ∈ ws.elementIds
  anchors : ws.AnchorsExist

theorem isRenaming_rekeyed (outside : ∀ e ∈ ws.elements, e.parentId ≠ some e.id) :
    IsRenaming (rekey old new) old newName ws (ws.rekeyed old new newName) where
  name := rfl
  description := rfl
  elements := List.map_congr_left fun e he => rekeyed_eq_renamed (outside e he)
  relationships := rfl
  views := List.forall₂_map_right_iff.2 (List.forall₂_same.2 fun v _ => ⟨view_rekeyed_eq v, key_rekeyed_of_ne⟩)

namespace IsRenaming

theorem isInside_iff (h : IsRenaming f id newName ws after) {child above : String} :
    IsInside after.elements child above ↔ ∃ c p, IsInside ws.elements c p ∧ f c = child ∧ f p = above := by
  unfold IsInside
  rw [h.elements]
  constructor
  · rintro ⟨_, mem, rfl, hp⟩
    obtain ⟨e, he, rfl⟩ := List.mem_map.1 mem
    obtain ⟨p, parent, rfl⟩ := Option.map_eq_some_iff.1 hp
    exact ⟨e.id, p, ⟨e, he, rfl, parent⟩, rfl, rfl⟩
  · rintro ⟨_, p, ⟨e, he, rfl, parent⟩, rfl, rfl⟩
    exact ⟨_, List.mem_map_of_mem he, rfl, congrArg (Option.map f) parent⟩

variable (h : IsRenaming f id newName ws after) (linked : ws.IsLinked)
  (injective : ∀ a ∈ ws.elementIds, ∀ b ∈ ws.elementIds, f a = f b → a = b) {a : String} (known : a ∈ ws.elementIds)

include h linked injective known

theorem childrenOf_eq : after.childrenOf (some (f a)) =
    (ws.childrenOf (some a)).map (Element.renamed f id newName) := by
  rw [childrenOf, h.elements, List.filter_map, childrenOf]
  refine congrArg _ (List.filter_congr fun e he => ?_)
  rw [Bool.eq_iff_iff]
  simp only [Function.comp, beq_iff_eq]
  constructor
  · intro parent
    obtain ⟨p, hp, same⟩ := Option.map_eq_some_iff.1 parent
    rw [hp, injective p (linked.parents e he p hp) a known same]
  · exact congrArg (Option.map f)

/-- The same elements are inside it, under the ids that they have now. -/
theorem transGen_iff {child : String} : TransGen (IsInside after.elements) child (f a) ↔
    ∃ c, TransGen (IsInside ws.elements) c a ∧ f c = child := by
  constructor
  · intro chain
    induction chain using TransGen.head_induction_on with
    | single moved =>
      obtain ⟨c, p, link, rfl, same⟩ := h.isInside_iff.1 moved
      rw [injective p (link.mem linked.parents) a known same] at link
      exact ⟨c, .single link, rfl⟩
    | head moved _ ih =>
      obtain ⟨d, chain, rfl⟩ := ih
      obtain ⟨c, p, link, rfl, same⟩ := h.isInside_iff.1 moved
      -- This link ends at an element's id, and the rest of the chain begins at one, so they are the same.
      obtain ⟨_, ⟨e, he, rfl, _⟩, _⟩ := TransGen.head'_iff.1 chain
      rw [injective p (link.mem linked.parents) e.id (List.mem_map_of_mem he) same] at link
      exact ⟨c, .head link chain, rfl⟩
  · rintro ⟨c, chain, rfl⟩
    exact TransGen.lift f (fun c p link => h.isInside_iff.2 ⟨c, p, link, rfl, rfl⟩) c a chain

theorem mem_descendants_iff {i : String} : i ∈ after.descendants (some (f a)) ↔
    ∃ j ∈ ws.descendants (some a), f j = i := by
  simp only [mem_descendants, h.transGen_iff linked injective known]

end IsRenaming

theorem IsRenaming.lacks (h : IsRenaming (rekey old new) id newName ws after) (changed : new ≠ old) :
    after.Lacks old := by
  have moved : ∀ reference : Option String, reference.map (rekey old new) ≠ some old := by
    intro reference same
    obtain ⟨i, _, stays⟩ := Option.map_eq_some_iff.1 same
    exact rekey_ne_old changed i stays
  refine ⟨fun e he => ?_, fun r hr => ?_, fun v hv => ?_⟩
  · rw [h.elements] at he
    obtain ⟨x, _, rfl⟩ := List.mem_map.1 he
    exact ⟨rekey_ne_old changed _, moved _⟩
  · rw [h.relationships] at hr
    obtain ⟨x, _, rfl⟩ := List.mem_map.1 hr
    exact ⟨rekey_ne_old changed _, rekey_ne_old changed _⟩
  · obtain ⟨x, _, same, _⟩ := exists_of_mem_right h.views hv
    rw [same]
    exact ⟨moved _, moved _⟩

/-! ## One name after the other -/

theorem renamedId_eq (ws : Workspace) (e : Element) (newName : String) :
    ws.renamedId e newName = elementIdentity e.kind newName (ws.elementIds.filter (· != e.id)) := by
  rw [renamedId, elementIds, List.filter_map]
  rfl

variable {between middle : String}

/-- The ids of the other elements are the same under any name. -/
theorem others_rekeyed (free : ∀ i ∈ ws.elementIds, i ≠ old → i ≠ between) :
    (ws.rekeyed old between middle).elementIds.filter (· != between) = ws.elementIds.filter (· != old) := by
  rw [elementIds_rekeyed, List.filter_map]
  have same : ws.elementIds.filter ((· != between) ∘ rekey old between) = ws.elementIds.filter (· != old) := by
    refine List.filter_congr fun i hi => ?_
    by_cases here : i = old
    · simp [here, rekey_self]
    · have apart := free i hi here
      rw [Bool.eq_iff_iff]
      simp [rekey_of_ne here, here, apart]
  rw [same]
  refine (List.map_congr_left fun i hi => rekey_of_ne ?_).trans (List.map_id _)
  simpa using (List.mem_filter.1 hi).2

theorem rekeyed_rekeyed_element (linked : ws.IsLinked) (free : ∀ i ∈ ws.elementIds, i ≠ old → i ≠ between)
    {e : Element} (he : e ∈ ws.elements) :
    (e.rekeyed old between middle).rekeyed between new newName = e.rekeyed old new newName := by
  have known : e.id ∈ ws.elementIds := List.mem_map_of_mem he
  have outside : e.parentId ≠ some e.id := linked.acyclic.parentId_ne he
  have still : (e.renamed (rekey old between) old middle).parentId ≠
      some (e.renamed (rekey old between) old middle).id := by
    intro own
    obtain ⟨p, hp, same⟩ := Option.map_eq_some_iff.1 own
    exact outside (by rw [hp, injective_rekey free p (linked.parents e he p hp) e.id known same])
  have ids : rekey between new (rekey old between e.id) = rekey old new e.id := rekey_rekey (free e.id known)
  have parents : (e.parentId.map (rekey old between)).map (rekey between new) = e.parentId.map (rekey old new) := by
    rw [Option.map_map]
    exact Option.map_congr fun p hp => rekey_rekey (free p (linked.parents e he p hp))
  have names : (if rekey old between e.id = between then newName else if e.id = old then middle else e.name) =
      if e.id = old then newName else e.name := by
    by_cases here : e.id = old
    · rw [here, rekey_self, if_pos rfl, if_pos rfl]
    · rw [rekey_of_ne here, if_neg (free e.id known here), if_neg here, if_neg here]
  rw [rekeyed_eq_renamed outside, rekeyed_eq_renamed still, rekeyed_eq_renamed outside]
  simp only [Element.renamed, Element.mapIds, Element.mk.injEq, ElementDraft.mk.injEq, true_and, and_true]
  exact ⟨⟨names, parents⟩, ids⟩

theorem rekeyed_rekeyed_anchors (linked : ws.IsLinked) (free : ∀ i ∈ ws.elementIds, i ≠ old → i ≠ between)
    {v : View} (hv : v ∈ ws.views) :
    ((v.rekeyed old between).rekeyed between new).anchors = (v.rekeyed old new).anchors := by
  have follow : ∀ anchor : Option String, (∀ i ∈ anchor, i ∈ ws.elementIds) →
      (anchor.map (rekey old between)).map (rekey between new) = anchor.map (rekey old new) := by
    intro anchor there
    rw [Option.map_map]
    exact Option.map_congr fun i hi => rekey_rekey (free i (there i hi))
  have first := View.anchors_rekeyed old between v
  have second := View.anchors_rekeyed between new (v.rekeyed old between)
  have direct := View.anchors_rekeyed old new v
  rw [View.anchors, View.anchors, second.1, second.2, first.1, first.2, direct.1, direct.2,
    follow _ (linked.anchors v hv).system, follow _ (linked.anchors v hv).container]

/-- After two names nothing but the key of a deployment view tells that there was one in between. -/
theorem rekeyed_rekeyed (linked : ws.IsLinked) (free : ∀ i ∈ ws.elementIds, i ≠ old → i ≠ between) :
    ((ws.rekeyed old between middle).rekeyed between new newName).elements = (ws.rekeyed old new newName).elements ∧
      ((ws.rekeyed old between middle).rekeyed between new newName).relationships =
        (ws.rekeyed old new newName).relationships ∧
      ((ws.rekeyed old between middle).rekeyed between new newName).views.map View.anchors =
        (ws.rekeyed old new newName).views.map View.anchors := by
  simp only [rekeyed, List.map_map]
  refine ⟨List.map_congr_left fun e he => rekeyed_rekeyed_element linked free he,
    List.map_congr_left fun r hr => ?_, List.map_congr_left fun v hv => rekeyed_rekeyed_anchors linked free hv⟩
  obtain ⟨source, target⟩ := linked.ends r hr
  simp only [Function.comp, Relationship.rekeyed, rekey_rekey (free _ source), rekey_rekey (free _ target)]

theorem renameElement_eq {e : Element} (found : ws.element? id = some e) :
    ws.renameElement id newName = .ok (ws.rekeyed id (ws.renamedId e newName) newName) := by
  rw [renameElement, requireElement, found]
  rfl

/-- The renamed element makes of its next name what it would have made of it at first. -/
theorem renameElement_rekeyed (linked : ws.IsLinked) {e : Element} (he : e ∈ ws.elements)
    (free : ∀ i ∈ ws.elementIds, i ≠ e.id → i ≠ between) :
    (ws.rekeyed e.id between middle).renameElement between newName =
      .ok ((ws.rekeyed e.id between middle).rekeyed between (ws.renamedId e newName) newName) := by
  have distinct : (ws.rekeyed e.id between middle).elementIds.Nodup := by
    rw [elementIds_rekeyed]
    exact linked.elementIds.map_on (injective_rekey free)
  have named : (e.rekeyed e.id between middle).id = between := by rw [id_rekeyed, rekey_self]
  have found : (ws.rekeyed e.id between middle).element? between = some (e.rekeyed e.id between middle) := by
    have mem : e.rekeyed e.id between middle ∈ (ws.rekeyed e.id between middle).elements := List.mem_map_of_mem he
    have first := find?_id_of_mem distinct mem
    rwa [named] at first
  have same : (ws.rekeyed e.id between middle).renamedId (e.rekeyed e.id between middle) newName =
      ws.renamedId e newName := by
    rw [renamedId_eq, renamedId_eq, kind_rekeyed, named, others_rekeyed free]
  rw [renameElement_eq found, same]

/-! ## Renaming -/

/-- What becomes of ids where an element gets a new name. -/
def idUnder (ws : Workspace) (e : Element) (newName : String) : String → String :=
  rekey e.id (ws.renamedId e newName)

/-- A rename is an isomorphism, and of several names only the last one counts. -/
theorem renameElement_isomorphism (linked : ws.IsLinked) {e : Element} (he : e ∈ ws.elements) (newName : String) :
    ∃ after, ws.renameElement e.id newName = .ok after ∧
      (∀ x ∈ ws.elements, x.id ≠ e.id → x.id ≠ ws.renamedId e newName) ∧
      IsRenaming (ws.idUnder e newName) e.id newName ws after ∧
      (∀ a ∈ ws.elementIds,
        after.childrenOf (some (ws.idUnder e newName a)) =
            (ws.childrenOf (some a)).map (Element.renamed (ws.idUnder e newName) e.id newName) ∧
          ∀ i, i ∈ after.descendants (some (ws.idUnder e newName a)) ↔
            ∃ j ∈ ws.descendants (some a), ws.idUnder e newName j = i) ∧
      (ws.renamedId e newName ≠ e.id → after.Lacks e.id) ∧
      ∀ middle, ∃ between, ws.renameElement e.id middle = .ok between ∧
        ∃ final, between.renameElement (ws.renamedId e middle) newName = .ok final ∧
          final.elements = after.elements ∧ final.relationships = after.relationships ∧
          final.views.map View.anchors = after.views.map View.anchors := by
  have found : ws.element? e.id = some e := find?_id_of_mem linked.elementIds he
  have free : ∀ name, ∀ i ∈ ws.elementIds, i ≠ e.id → i ≠ ws.renamedId e name := fun name i hi =>
    renamedId_free e name hi
  have renamed : IsRenaming (ws.idUnder e newName) e.id newName ws
      (ws.rekeyed e.id (ws.renamedId e newName) newName) :=
    isRenaming_rekeyed fun x hx => linked.acyclic.parentId_ne hx
  have injective := injective_rekey (free newName)
  refine ⟨_, renameElement_eq found, fun x hx => free newName x.id (List.mem_map_of_mem hx), renamed, fun a ha => ?_,
    renamed.lacks, fun middle => ?_⟩
  · exact ⟨renamed.childrenOf_eq linked injective ha, fun i => renamed.mem_descendants_iff linked injective ha⟩
  · exact ⟨_, renameElement_eq found, _, renameElement_rekeyed linked he (free middle),
      rekeyed_rekeyed linked (free middle)⟩

/-- A desk with a till in it, and another one that has the name the first will get. -/
def bureau : Workspace :=
  { name := "Bureau", description := ""
    elements := [{ id := "till", kind := .component, name := "Till", parentId := some "desk" },
      { id := "desk", kind := .container, name := "Desk", parentId := some "shop" },
      { id := "OrderDesk_Container", kind := .container, name := "Order desk", parentId := some "shop" },
      { id := "shop", kind := .softwareSystem, name := "Shop" }]
    relationships := [{ id := "asks", sourceId := "desk", targetId := "desk" },
      { id := "sends", sourceId := "till", targetId := "OrderDesk_Container" }]
    views := [landscapeView landscapeDescription,
      { id := "a", key := "components-desk", kind := .component, containerId := some "desk" }] }

theorem renameElement_isomorphism_bureau : bureau.IsLinked ∧
    ∃ after, bureau.renameElement "desk" "order desk" = .ok after ∧
      after.elementIds = ["till", "OrderDesk_Container_1", "OrderDesk_Container", "shop"] ∧
      after.relationships.map (·.sourceId) = ["OrderDesk_Container_1", "till"] ∧ after.Lacks "desk" := by
  have linked : bureau.IsLinked := ⟨by decide, by decide_cbv, by decide, by decide, by decide⟩
  have new : bureau.idUnder bureau.elements[1] "order desk" = rekey "desk" "OrderDesk_Container_1" := by
    rw [idUnder, show bureau.renamedId bureau.elements[1] "order desk" = "OrderDesk_Container_1" by decide +kernel]
    rfl
  obtain ⟨after, done, _, renamed, _, lacks, _⟩ :=
    renameElement_isomorphism linked (e := bureau.elements[1]) (by simp) "order desk"
  refine ⟨linked, after, done, ?_, ?_, lacks (by decide +kernel)⟩
  · rw [elementIds, renamed.elements, new]
    rfl
  · rw [renamed.relationships, new]
    rfl

end Workspace

end Blueprint
