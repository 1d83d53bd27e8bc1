/-
  Blueprint.Proofs.Dsl.ViewRoundTrip — the views of a workspace are read from its document as they were
  (`generate_dsl` and then `parse_dsl`).

  An anchor travels as the identifier of its element and comes back as the id of the element's copy. The
  key by which a deployment view belongs to its node has the node's id in it, and is made again from the
  copy's. So where every element that should have a view has one, its copy has one as well, and none is
  added.

  Proved: the views that can be written come back in their order, and no others do (`views_document`).
-/

import Blueprint.Proofs.Dsl.RoundTrip
import Blueprint.Validation.Rules

namespace Blueprint

open Text Dsl

/-- The deployment view belongs to the node by its key. -/
def View.Deploys (v : View) (e : Element) : Prop :=
  v.kind = .deployment ∧ e.kind = .deploymentNode ∧ v.key = deploymentViewKey e.id

/-- What a view needs to be written and found again: a key of key characters, no fault, and an anchor if its kind
wants one. -/
structure View.IsPresentable (elements : List Element) (v : View) : Prop where
  key : v.key ≠ ""
  sanitized : sanitizeKeyText v.key = v.key
  anchored : v.kind.anchorKind.isSome → v.anchorId.isSome
  valid : v.fault? elements = none

/-- The same view but for its id, with the copy of its anchor. A view that belongs to a node belongs to the
node's copy. -/
structure View.Copies (elements : List Element) (rename : String → String) (v c : View) : Prop where
  kind : c.kind = v.kind
  name : c.name = if v.name = "" then v.key else v.name
  description : c.description = v.description
  anchorId : v.kind.anchorKind.isSome → c.anchorId = v.anchorId.map rename
  deploys : ∀ e ∈ elements, v.Deploys e → c.key = deploymentViewKey (rename e.id)
  key : (∀ e ∈ elements, ¬ v.Deploys e) → c.key = v.key

theorem deploymentViewKey_injective : Function.Injective deploymentViewKey := fun _ _ h =>
  (String.append_right_inj _).1 h

namespace View.IsPresentable

variable {elements : List Element} {v : View}

/-- The anchor is an element of the kind that is wanted. -/
theorem exists_anchor (h : v.IsPresentable elements) {expected : ElementKind}
    (needs : v.kind.anchorKind = some expected) :
    ∃ e ∈ elements, v.anchorId = some e.id ∧ e.kind = expected := by
  obtain ⟨id, hid⟩ := Option.isSome_iff_exists.1 (h.anchored (by rw [needs]; rfl))
  have valid := h.valid
  simp only [View.fault?, needs, hid] at valid
  split at valid
  · cases valid
  · split at valid
    · cases valid
    · next e found =>
      have same : e.id = id := by simpa using List.find?_some found
      refine ⟨e, List.mem_reverse.1 (List.mem_of_find?_eq_some found), by rw [hid, same], ?_⟩
      by_contra other
      rw [if_neg other] at valid
      cases valid

end View.IsPresentable

namespace Dsl

variable {ws : Workspace} {ids : IdSource} {rename : String → String} {b : Builder} {v : View} {p : PendingView}

/-- An anchored view is written with the identifier of its anchor. -/
theorem exists_identifier (named : (Allocation.ofElements ws.elements).Names ws.elements)
    (h : v.IsPresentable ws.elements) (needs : v.kind.anchorKind.isSome) :
    ∃ e ∈ ws.elements, v.anchorId = some e.id ∧ e.kind ≠ .group ∧
      ∃ i, (Allocation.ofElements ws.elements).get? e.id = some i ∧
        writtenAnchor? ws (Allocation.ofElements ws.elements) v = some i.toList := by
  obtain ⟨expected, hexpected⟩ := Option.isSome_iff_exists.1 needs
  obtain ⟨e, he, anchor, kind⟩ := h.exists_anchor hexpected
  obtain ⟨i, hi, _⟩ := named.named e he
  have noGroup : e.kind ≠ .group := by
    rw [kind]
    rintro rfl
    cases hk : v.kind <;> rw [hk] at hexpected <;> cases hexpected
  refine ⟨e, he, anchor, noGroup, i, hi, ?_⟩
  unfold writtenAnchor?
  cases hk : v.kind
  case systemLandscape => rw [hk] at needs; cases needs
  case deployment => rw [hk] at needs; cases needs
  all_goals simp only [anchor, Option.bind_some, hi, Option.map_some]

theorem isWritten_of_isPresentable (named : (Allocation.ofElements ws.elements).Names ws.elements)
    (h : v.IsPresentable ws.elements) : isWritten ws (Allocation.ofElements ws.elements) v = true := by
  unfold isWritten anchorText?
  cases hk : v.kind
  case systemLandscape => rfl
  case deployment => rfl
  all_goals
    obtain ⟨e, _, anchor, _, i, hi, _⟩ := exists_identifier named h (by rw [hk]; rfl)
    simp only [anchor, Option.bind_some, hi, Option.map_some, Option.isSome_some]

namespace PendingView.Reads

variable (reads : PendingView.Reads ws (Allocation.ofElements ws.elements) v p) (h : v.IsPresentable ws.elements)

include reads h

theorem key_eq : p.view.key = v.key := by
  have key := h.sanitized
  rw [reads.key (by rw [key]; exact h.key), key]

theorem name_eq : p.view.name = if v.name = "" then v.key else v.name := by
  rw [reads.name, h.sanitized, hasTitle]
  by_cases empty : v.name = ""
  · simp [empty]
  · by_cases same : v.name = v.key <;> simp [same, h.key, empty]

/-- The view as it was taken in is a copy, if it is neither anchored nor belongs to a node. -/
theorem copies (free : v.kind.anchorKind.isSome = false) (apart : ∀ e ∈ ws.elements, ¬ v.Deploys e) :
    View.Copies ws.elements rename v p.view := by
  refine ⟨reads.kind, reads.name_eq h, reads.description, fun needs => ?_, fun e he deploys => ?_,
    fun _ => reads.key_eq h⟩
  · rw [free] at needs
    cases needs
  · exact absurd deploys (apart e he)

end PendingView.Reads

/-! ## One view -/

/-- The view with an anchor in the place that its kind has for it. -/
def anchoredOn (v : View) (id : String) : View :=
  if v.kind = .component then { v with containerId := some id } else { v with softwareSystemId := some id }

theorem anchorId_anchoredOn (v : View) (id : String) : (anchoredOn v id).anchorId = some id := by
  unfold anchoredOn
  split <;> next hk => simp [View.anchorId, hk]

theorem anchoredOn_eq (v : View) (id : String) : (anchoredOn v id).kind = v.kind ∧ (anchoredOn v id).key = v.key ∧
    (anchoredOn v id).name = v.name ∧ (anchoredOn v id).description = v.description := by
  unfold anchoredOn
  split <;> exact ⟨rfl, rfl, rfl, rfl⟩

/-- The view is taken over as a copy. -/
def ResolvesTo (ws : Workspace) (rename : String → String) (b : Builder) (v : View) (p : PendingView) : Prop :=
  ∃ c, b.resolveView b.buildElements p = .ok c ∧ View.Copies ws.elements rename v c

theorem resolvesTo_landscape (b : Builder) (reads : PendingView.Reads ws (Allocation.ofElements ws.elements) v p)
    (h : v.IsPresentable ws.elements) (hk : v.kind = .systemLandscape) : ResolvesTo ws rename b v p := by
  have unanchored : p.anchor = none := by rw [reads.anchor, writtenAnchor?, hk]; rfl
  refine ⟨p.view, by rw [Builder.resolveView, unanchored], reads.copies h (by rw [hk]; rfl) fun e _ deploys => ?_⟩
  rw [deploys.1] at hk
  cases hk

namespace HoldsModel

variable (holds : HoldsModel rename ws b) (hl : ws.IsLegible)

include holds hl

theorem mirrors : List.Forall₂ (Element.Mirrors rename) (Tree.preorderAll ws.forest) b.buildElements :=
  holds.forall₂_elements hl fun _ _ _ _ read => ⟨read.id, read.kind, read.name, read.parentId⟩

theorem exists_mirror {e : Element} (he : e ∈ ws.elements) : ∃ c ∈ b.buildElements, e.Mirrors rename c := by
  obtain ⟨i, hi, rfl⟩ := List.getElem_of_mem ((perm_preorder_forest hl.ids hl.acyclic).mem_iff.2 he)
  have mirrors := holds.mirrors hl
  exact ⟨_, List.get_mem _ _, mirrors.get hi (mirrors.length_eq ▸ hi)⟩

theorem exists_mirrored {c : Element} (hc : c ∈ b.buildElements) : ∃ e ∈ ws.elements, e.Mirrors rename c := by
  obtain ⟨i, hi, rfl⟩ := List.getElem_of_mem hc
  have mirrors := holds.mirrors hl
  have bound := mirrors.length_eq ▸ hi
  exact ⟨_, (perm_preorder_forest hl.ids hl.acyclic).mem_iff.1 (List.get_mem _ ⟨i, bound⟩), mirrors.get bound hi⟩

theorem exists_lastElement? (distinct : (b.buildElements.map (·.id)).Nodup) {e : Element} (he : e ∈ ws.elements) :
    ∃ c, Workspace.lastElement? b.buildElements (rename e.id) = some c ∧ c.kind = e.kind := by
  obtain ⟨c, hc, mirrors⟩ := holds.exists_mirror hl he
  exact ⟨c, by rw [← mirrors.id, Workspace.lastElement?_of_mem distinct hc], mirrors.kind⟩

variable (reads : PendingView.Reads ws (Allocation.ofElements ws.elements) v p) (h : v.IsPresentable ws.elements)

include reads h

theorem resolvesTo_anchored (needs : v.kind.anchorKind.isSome) : ResolvesTo ws rename b v p := by
  obtain ⟨e, he, anchorId, noGroup, i, hi, anchor⟩ := exists_identifier hl.named h needs
  have read : p.anchor = some i := by rw [reads.anchor, anchor, Option.map_some, String.ofList_toList]
  have notStar : i ≠ "*" := by
    rintro rfl
    exact absurd (word_of_get? hl.named hi) (by decide)
  have notDeployment : v.kind ≠ .deployment := fun hk => by rw [hk] at needs; cases needs
  have apart : ∀ f ∈ ws.elements, ¬ v.Deploys f := fun f _ deploys => notDeployment deploys.1
  have resolved : b.resolveView b.buildElements p = .ok (anchoredOn p.view (rename e.id)) := by
    have other : p.view.kind ≠ .deployment := reads.kind ▸ notDeployment
    simp only [Builder.resolveView, read, notStar, if_false, holds.resolve hl he noGroup hi, other]
    rfl
  obtain ⟨kind, key, name, description⟩ := anchoredOn_eq p.view (rename e.id)
  refine ⟨_, resolved, kind.trans reads.kind, name.trans (reads.name_eq h), description.trans reads.description,
    fun _ => ?_, fun f hf deploys => absurd deploys (apart f hf), fun _ => key.trans (reads.key_eq h)⟩
  rw [anchorId_anchoredOn, anchorId, Option.map_some]

/-- The key is made again from the id of the node's copy. -/
theorem resolvesTo_node (distinct : (b.buildElements.map (·.id)).Nodup) {e : Element} (he : e ∈ ws.elements)
    (filled : rename e.id ≠ "") (deploys : v.Deploys e)
    (anchor : p.anchor = some (String.ofList (identifierOf (Allocation.ofElements ws.elements) e.id))) :
    ResolvesTo ws rename b v p := by
  have noGroup : e.kind ≠ .group := by rw [deploys.2.1]; decide
  obtain ⟨i, hi, word, _⟩ := hl.named.named e he
  have read : p.anchor = some i := by rw [anchor, identifierOf, hi, Option.getD_some, String.ofList_toList]
  have notStar : i ≠ "*" := by
    rintro rfl
    exact absurd word (by decide)
  obtain ⟨c, last, kind⟩ := holds.exists_lastElement? hl distinct he
  have resolved : b.resolveView b.buildElements p = .ok { p.view with key := deploymentViewKey (rename e.id) } := by
    simp [Builder.resolveView, read, reads.kind, deploys.1, notStar, holds.resolve hl he noGroup hi, last, kind,
      deploys.2.1, filled]
  refine ⟨_, resolved, reads.kind, reads.name_eq h, reads.description, fun needs => ?_, fun f hf others => ?_,
    fun apart => absurd deploys (apart e he)⟩
  · rw [deploys.1] at needs
    cases needs
  · rw [deploymentViewKey_injective (others.2.2.symm.trans deploys.2.2)]

theorem resolvesTo_deployment (distinct : (b.buildElements.map (·.id)).Nodup)
    (filled : ∀ e ∈ ws.elements, rename e.id ≠ "") (hk : v.kind = .deployment) : ResolvesTo ws rename b v p := by
  have read : p.anchor = some (String.ofList (deploymentAnchor ws (Allocation.ofElements ws.elements) v)) := by
    rw [reads.anchor, writtenAnchor?, hk]
    rfl
  rw [deploymentAnchor] at read
  cases found : ws.elements.find? fun e => e.kind == .deploymentNode && v.key == deploymentViewKey e.id with
  | none =>
    rw [found] at read
    refine ⟨p.view, ?_, reads.copies h (by rw [hk]; rfl) fun e he deploys => ?_⟩
    · simp only [Builder.resolveView, read, reads.kind.trans hk, if_true]
    · have other := List.find?_eq_none.1 found e he
      simp [deploys.2.1, deploys.2.2] at other
  | some e =>
    rw [found] at read
    have he := List.mem_of_find?_eq_some found
    obtain ⟨node, key⟩ : e.kind = .deploymentNode ∧ v.key = deploymentViewKey e.id := by
      simpa using List.find?_some found
    exact holds.resolvesTo_node hl reads h distinct he (filled e he) ⟨hk, node, key⟩ read

theorem resolvesTo (distinct : (b.buildElements.map (·.id)).Nodup) (filled : ∀ e ∈ ws.elements, rename e.id ≠ "") :
    ResolvesTo ws rename b v p := by
  cases hk : v.kind with
  | systemLandscape => exact resolvesTo_landscape b reads h hk
  | deployment => exact holds.resolvesTo_deployment hl reads h distinct filled hk
  | systemContext => exact holds.resolvesTo_anchored hl reads h (by rw [hk]; rfl)
  | container => exact holds.resolvesTo_anchored hl reads h (by rw [hk]; rfl)
  | component => exact holds.resolvesTo_anchored hl reads h (by rw [hk]; rfl)

end HoldsModel

/-! ## All views -/

theorem forall₂_resolveViews {vs : List View} {ps : List PendingView}
    (h : List.Forall₂ (ResolvesTo ws rename b) vs ps) :
    List.Forall₂ (View.Copies ws.elements rename) vs (b.resolveViews b.buildElements ps).1 := by
  induction h with
  | nil => exact .nil
  | cons here _ ih =>
    obtain ⟨c, resolved, copies⟩ := here
    rw [Builder.resolveViews, resolved]
    exact .cons copies ih

theorem writtenViews_eq (hl : ws.IsLegible) (h : ∀ v ∈ ws.views, v.IsPresentable ws.elements) :
    writtenViews ws (Allocation.ofElements ws.elements) = ws.views :=
  List.filter_eq_self.2 fun v hv => isWritten_of_isPresentable hl.named (h v hv)

/-- Views that are taken in for presentable ones are taken over as their copies. -/
theorem HoldsModel.copies_views (holds : HoldsModel rename ws b) (hl : ws.IsLegible)
    (distinct : (b.buildElements.map (·.id)).Nodup) (filled : ∀ e ∈ ws.elements, rename e.id ≠ "") {vs : List View}
    {ps : List PendingView} (h : ∀ v ∈ vs, v.IsPresentable ws.elements)
    (reads : List.Forall₂ (PendingView.Reads ws (Allocation.ofElements ws.elements)) vs ps) :
    List.Forall₂ (View.Copies ws.elements rename) vs (b.resolveViews b.buildElements ps).1 := by
  refine forall₂_resolveViews ?_
  induction reads with
  | nil => exact .nil
  | cons here _ ih =>
    obtain ⟨first, later⟩ := List.forall_mem_cons.1 h
    exact .cons (holds.resolvesTo hl here first distinct filled) (ih later)

/-! ## Coverage -/

section Coverage

variable {vs cs : List View} (copies : List.Forall₂ (View.Copies ws.elements rename) vs cs)

include copies

theorem any_copies {P Q : View → Bool} (keep : ∀ v c, View.Copies ws.elements rename v c → P v = true → Q c = true)
    (h : vs.any P = true) : cs.any Q = true := by
  induction copies with
  | nil => cases h
  | cons here _ ih =>
    rw [List.any_cons, Bool.or_eq_true] at h ⊢
    exact h.imp (keep _ _ here) ih

variable {e c : Element} (mirrors : e.Mirrors rename c)

theorem hasLandscapeView_copies (h : hasLandscapeView vs = true) : hasLandscapeView cs = true :=
  any_copies copies (fun v c copy is => by rwa [copy.kind]) h

include mirrors

theorem hasContainerView_copies (h : hasContainerView vs e = true) : hasContainerView cs c = true := by
  refine any_copies copies (fun v w copy is => ?_) h
  obtain ⟨kind, anchor⟩ : v.kind = .container ∧ v.softwareSystemId = some e.id := by simpa using is
  have moved := copy.anchorId (by rw [kind]; rfl)
  simp only [View.anchorId, copy.kind, kind, anchor, reduceCtorEq, if_false, Option.map_some] at moved
  simp [copy.kind, kind, moved, mirrors.id]

/-- A view that shows the name of a node still does: only an empty name gives way to the key. -/
theorem hasDeploymentView_copies (he : e ∈ ws.elements) (node : e.kind = .deploymentNode)
    (h : hasDeploymentView vs e = true) : hasDeploymentView cs c = true := by
  refine any_copies copies (fun v w copy is => ?_) h
  simp only [Bool.and_eq_true, Bool.or_eq_true, beq_iff_eq] at is ⊢
  obtain ⟨kind, key | named⟩ := is
  · rw [mirrors.id]
    exact ⟨copy.kind.trans kind, .inl (copy.deploys e he ⟨kind, node, key⟩)⟩
  · refine ⟨copy.kind.trans kind, .inr ?_⟩
    rw [isInfix_iff] at named ⊢
    rw [mirrors.name, copy.name]
    split
    · next empty =>
      rw [empty] at named
      rw [List.infix_nil.1 named]
      exact List.nil_infix
    · exact named

end Coverage

/-- Where no view of the workspace is missing, none is missing among the copies. -/
theorem HoldsModel.isCovered_uncovered (holds : HoldsModel rename ws b) (hl : ws.IsLegible) (covered : ws.IsCovered)
    (copies : List.Forall₂ (View.Copies ws.elements rename) ws.views (b.resolveViews b.buildElements b.views).1) :
    (b.uncovered ids).IsCovered := by
  refine ⟨hasLandscapeView_copies copies covered.landscape, fun c hc hk => ?_, fun c hc hk => ?_⟩
  · obtain ⟨e, he, mirrors⟩ := holds.exists_mirrored hl hc
    exact hasContainerView_copies copies mirrors (covered.containers e he (mirrors.kind ▸ hk))
  · obtain ⟨e, he, mirrors⟩ := holds.exists_mirrored hl hc
    have node := mirrors.kind ▸ hk
    exact hasDeploymentView_copies copies mirrors he node (covered.deployments e he node)

/-- The views of a document are those of its workspace, if they can be presented and none is missing. -/
theorem views_document (hids : ids.Fresh) (drawn : Nat) (h : ws.IsLegible)
    (presentable : ∀ v ∈ ws.views, v.IsPresentable ws.elements) {source : IdSource} {n : Nat}
    (covered : (ws.cover source n).1 = ws) {text : String} (written : document ws = .ok text)
    (balanced : (braceCounts text).1 = (braceCounts text).2) :
    ∃ p, parse ids drawn text = .ok p ∧ ∃ order rename, ws.Preorder (ws.childrenOf none) order ∧
      order.Perm ws.elements ∧ List.Forall₂ (Element.Mirrors rename) order p.workspace.elements ∧
        p.workspace.elementIds.Nodup ∧ List.Forall₂ (View.Copies ws.elements rename) ws.views p.workspace.views := by
  have indent : IsIndent usualStep := by decide
  have perm := perm_preorder_forest h.ids h.acyclic
  obtain ⟨rename, draws⟩ := exists_draws ids drawn ((perm.map _).nodup_iff.2 h.ids)
  have finite := finite_of_write written
  obtain rfl := Except.ok.inj (written.symm.trans (write_of_finite finite usualStep))
  refine ⟨_, parse_of_balanced ids drawn balanced, Tree.preorderAll ws.forest, rename, ?_⟩
  have holds := Builder.holds_document indent h finite drawn draws
  have sound := Builder.sound_feedAll hids drawn
    (tokenize (String.ofList ((Outline.block (workspaceHeader ws) (workspaceParts ws)).text usualStep)))
  generalize Builder.feedAll ids _ _ = b at holds sound
  have distinct := (sound.integrity hids).elementIds
  have filled : ∀ e ∈ ws.elements, rename e.id ≠ "" := fun e he => id_ne_empty hids draws (perm.mem_iff.2 he)
  have isCovered := Workspace.isCovered_of_cover covered
  have some : ws.views ≠ [] := fun none => by
    have landscape := isCovered.landscape
    rw [none] at landscape
    cases landscape
  have reads := holds.views some
  rw [writtenViews_eq h presentable] at reads
  have elements : b.buildElements.map (·.id) = (b.build ids).workspace.elementIds := by
    rw [Workspace.elementIds, Builder.build_elements]
  have copies := holds.copies_views h (elements ▸ distinct) filled presentable reads
  have uncovered := @HoldsModel.isCovered_uncovered _ ids _ _ holds.toHoldsModel h isCovered copies
  refine ⟨preorder_forest h, perm, ?_, distinct, ?_⟩
  · rw [Builder.build_elements]
    exact holds.mirrors h
  · rw [Builder.build_workspace, uncovered.cover_eq_self]
    exact copies

/-- A system with a container, and a node of its own; each has a view, and one of the views has no name. -/
def depot : Workspace :=
  { name := "Depot", description := ""
    elements :=
      [{ id := "depot", kind := .softwareSystem, name := "Depot" },
        { id := "stock-1", kind := .container, name := "Stock", parentId := some "depot" },
        { id := "rack", kind := .deploymentNode, name := "Rack" }]
    views :=
      [landscapeView "All",
        { id := "inside", key := "view-depot", kind := .container, softwareSystemId := some "depot" },
        { id := "parts", key := "parts", kind := .component, containerId := some "stock-1", name := "Parts" },
        { id := "racks", key := "deploy-rack", kind := .deployment, name := "Racks" }] }

theorem isLegible_depot : depot.IsLegible where
  ids := by decide
  lastOfId := by decide
  parents := by decide
  acyclic := ParentsFirst.acyclic (by decide) (by decide)
  texts := by decide

theorem views_document_depot :
    ∃ text p, document depot = .ok text ∧ parse IdSource.strokes 0 text = .ok p ∧
      ∃ rename, List.Forall₂ (View.Copies depot.elements rename) depot.views p.workspace.views := by
  have finite : HasFinitePositions depot.elements := by decide
  have written := write_eq finite usualStep
  have presentable : ∀ v ∈ depot.views, v.IsPresentable depot.elements := by
    have all : ∀ v ∈ depot.views, v.key ≠ "" ∧ sanitizeKeyText v.key = v.key ∧
        (v.kind.anchorKind.isSome → v.anchorId.isSome) ∧ v.fault? depot.elements = none := by decide
    exact fun v hv => ⟨(all v hv).1, (all v hv).2.1, (all v hv).2.2.1, (all v hv).2.2.2⟩
  have covered : (depot.cover IdSource.strokes 0).1 = depot := by decide
  obtain ⟨p, parsed, order, rename, _, _, _, _, copies⟩ :=
    views_document IdSource.fresh_strokes 0 isLegible_depot presentable covered written (by
      simp only [braceCounts, String.toList_ofList]
      decide +kernel)
  exact ⟨_, p, written, parsed, rename, copies⟩

end Dsl

end Blueprint
