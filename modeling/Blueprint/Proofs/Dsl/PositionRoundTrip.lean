/-
  Blueprint.Proofs.Dsl.PositionRoundTrip — where the elements of a document stand (`generate_dsl` and then
  `parse_dsl`).

  Each view that is written records the positions of the elements that it shows, under their identifiers.
  Identifiers have no dots and differ, so what is recorded for one element is found for that element's
  qualified name and for no other element's. A group has no identifier; it is given one that is made of
  its new id, and this may happen to be the identifier of an element.

  Proved: an element whose position is recorded keeps it, any other stands on the grid, and a group stands
  on the grid unless an element has the identifier that it is given (`positions_document`). That a group
  can take an element's position for its own (`not_apart_document_crew`).
-/

import Blueprint.Proofs.Dsl.RoundTrip

namespace Blueprint

open Text Dsl

/-- The same position, a zero without its sign. -/
def Position.plain (p : Position) : Position := ⟨p.x.plain, p.y.plain⟩

/-- Both coordinates are integers. -/
def Position.IsWhole (p : Position) : Prop := p.x.IsWhole ∧ p.y.IsWhole

instance (p : Position) : Decidable p.IsWhole := inferInstanceAs (Decidable (_ ∧ _))

/-- The view is a landscape or a deployment view, or its anchor is among the elements. -/
def View.CanBeWritten (elements : List Element) (v : View) : Prop :=
  v.kind = .systemLandscape ∨ v.kind = .deployment ∨ ∃ e ∈ elements, v.anchorId = some e.id

/-- A view that is written shows elements of this kind. -/
def Workspace.Shows (ws : Workspace) (kind : ElementKind) : Prop :=
  ∃ v ∈ ws.views, v.CanBeWritten ws.elements ∧ kind ∈ v.kind.visibleKinds

/-- The copy of an element, the `i`-th of a document, stands where the element did if its position was
recorded, and else on the grid. The copy of a group stands where the element with its identifier did. -/
structure Element.IsPlaced (ws : Workspace) (e : Element) (i : Nat) (c : Element) : Prop where
  shown : e.kind ≠ .group → ws.Shows e.kind → c.position = e.position.plain
  unshown : e.kind ≠ .group → ¬ ws.Shows e.kind → c.position = gridCell i
  apart : e.kind = .group → (∀ f ∈ ws.elements, ws.Shows f.kind →
    (Allocation.ofElements ws.elements).get? f.id ≠ some (lastPart (groupIdentifier c.id))) → c.position = gridCell i
  taken : e.kind = .group → ∀ f ∈ ws.elements, ws.Shows f.kind →
    (Allocation.ofElements ws.elements).get? f.id = some (lastPart (groupIdentifier c.id)) →
      c.position = f.position.plain

namespace Dsl

variable {ws : Workspace} {rename : String → String} {b : Builder}

theorem isFinite_of_isWhole {x : Binary64} (h : x.IsWhole) : x.isFinite = true := by
  cases x with
  | finite negative m e => rfl
  | infinite negative => cases h.2
  | undefined => cases h.2

theorem asRead_of_isWhole {p : Position} (h : p.IsWhole) : p.asRead = p.plain := by
  rw [Position.asRead, Binary64.value_wholeNumeral h.1, Binary64.value_wholeNumeral h.2, Position.plain]

/-! ## What is recorded -/

theorem isWritten_iff (named : (Allocation.ofElements ws.elements).Names ws.elements) (v : View) :
    isWritten ws (Allocation.ofElements ws.elements) v = true ↔ v.CanBeWritten ws.elements := by
  have anchored : (v.anchorId.bind (Allocation.ofElements ws.elements).get?).isSome = true ↔
      ∃ e ∈ ws.elements, v.anchorId = some e.id := by
    constructor
    · intro some
      obtain ⟨i, found⟩ := Option.isSome_iff_exists.1 some
      obtain ⟨id, anchor, hi⟩ := Option.bind_eq_some_iff.1 found
      obtain ⟨e, he, rfl⟩ := List.mem_map.1 (named.known id i hi)
      exact ⟨e, he, anchor⟩
    · rintro ⟨e, he, anchor⟩
      obtain ⟨i, hi, _⟩ := named.named e he
      rw [anchor, Option.bind_some, hi]
      rfl
  unfold isWritten anchorText? View.CanBeWritten
  cases hk : v.kind <;> simp only [Option.isSome_map, Option.isSome_some, anchored] <;> simp

theorem mem_shownInViews_iff (named : (Allocation.ofElements ws.elements).Names ws.elements) {e : Element} :
    e ∈ shownInViews ws (Allocation.ofElements ws.elements) ↔ e ∈ ws.elements ∧ ws.Shows e.kind := by
  simp only [mem_shownInViews, Workspace.Shows, isWritten_iff named]

theorem recordOf_eq {names : Allocation} {e : Element} {i : String} (h : names.get? e.id = some i) :
    recordOf names e = (i, e.position.asRead) := by
  rw [recordOf, identifierOf, h, Option.getD_some, String.ofList_toList]

/-- Elements with the same identifier are the same. -/
theorem eq_of_identifier (hl : ws.IsLegible) {e f : Element} (he : e ∈ ws.elements) (hf : f ∈ ws.elements) {i : String}
    (hi : (Allocation.ofElements ws.elements).get? e.id = some i)
    (hj : (Allocation.ofElements ws.elements).get? f.id = some i) : e = f :=
  List.inj_on_of_nodup_map hl.ids he hf (hl.named.injective _ _ i hi hj)

/-- A record is that of an element that is shown, under its identifier. -/
theorem exists_of_mem_records (hl : ws.IsLegible) {r : String × Position}
    (hr : r ∈ (shownInViews ws (Allocation.ofElements ws.elements)).map (recordOf (Allocation.ofElements ws.elements))) :
    ∃ e ∈ ws.elements, ws.Shows e.kind ∧ IsWord r.1.toList ∧
      (Allocation.ofElements ws.elements).get? e.id = some r.1 ∧ r.2 = e.position.asRead := by
  obtain ⟨e, he, rfl⟩ := List.mem_map.1 hr
  obtain ⟨member, shows⟩ := (mem_shownInViews_iff hl.named).1 he
  obtain ⟨i, hi, word, _⟩ := hl.named.named e member
  rw [recordOf_eq hi]
  exact ⟨e, member, shows, word, hi, rfl⟩

theorem agree_records (hl : ws.IsLegible) : Positions.Agree
    ((shownInViews ws (Allocation.ofElements ws.elements)).map (recordOf (Allocation.ofElements ws.elements))) := by
  refine ⟨fun r hr dot => ?_, fun r hr s hs same => ?_⟩
  · obtain ⟨_, _, _, word, _⟩ := exists_of_mem_records hl hr
    exact absurd (word.forall_mem '.' dot) (by decide)
  · obtain ⟨e, he, _, _, hi, position⟩ := exists_of_mem_records hl hr
    obtain ⟨f, hf, _, _, hj, position'⟩ := exists_of_mem_records hl hs
    rw [position, position', eq_of_identifier hl he hf hi (same ▸ hj)]

/-! ## What is found -/

namespace Holds

variable (holds : Holds rename ws b) (hl : ws.IsLegible)

include holds hl

/-- Under the identifier of an element that is shown, its own position is found. -/
theorem lookup_of_shown {e : Element} (he : e ∈ ws.elements) (shown : ws.Shows e.kind) {name : String}
    (h : (Allocation.ofElements ws.elements).get? e.id = some (lastPart name)) :
    Positions.lookup b.positions name = some e.position.asRead := by
  rw [holds.positions]
  refine Positions.lookup_of_recorded b.table (agree_records hl) ?_
  rw [← recordOf_eq h]
  exact List.mem_map_of_mem ((mem_shownInViews_iff hl.named).2 ⟨he, shown⟩)

/-- Under any other name, nothing is found. -/
theorem lookup_of_apart {name : String} (h : ∀ e ∈ ws.elements, ws.Shows e.kind →
    (Allocation.ofElements ws.elements).get? e.id ≠ some (lastPart name)) :
    Positions.lookup b.positions name = none := by
  rw [holds.positions]
  refine Positions.lookup_of_unrecorded b.table (agree_records hl) fun r hr same => ?_
  obtain ⟨e, he, shown, _, hi, _⟩ := exists_of_mem_records hl hr
  exact h e he shown (same ▸ hi)

theorem isPlaced_elementOf (whole : ∀ e ∈ ws.elements, e.position.IsWhole) (i : Nat) {e : Element}
    (he : e ∈ ws.elements) {p : PendingElement}
    (reads : PendingElement.Reads (Allocation.ofElements ws.elements) rename e p) :
    e.IsPlaced ws i (b.elementOf i p) := by
  have position : (b.elementOf i p).position = (Positions.lookup b.positions p.identifier).getD (gridCell i) := rfl
  refine ⟨fun hk shown => ?_, fun hk unshown => ?_, fun hk apart => ?_, fun hk f hf shown taken => ?_⟩
  · obtain ⟨j, hj, _⟩ := hl.named.named e he
    rw [position, holds.lookup_of_shown hl he shown (by rw [reads.identifier hk j hj, hj]), Option.getD_some,
      asRead_of_isWhole (whole e he)]
  · obtain ⟨j, hj, _⟩ := hl.named.named e he
    rw [position, holds.lookup_of_apart hl fun f hf shown same => ?_, Option.getD_none]
    rw [reads.identifier hk j hj] at same
    exact unshown (eq_of_identifier hl he hf hj same ▸ shown)
  · have name : p.identifier = groupIdentifier (b.elementOf i p).id := reads.placeholder hk
    rw [position, holds.lookup_of_apart hl (name ▸ apart), Option.getD_none]
  · have name : p.identifier = groupIdentifier (b.elementOf i p).id := reads.placeholder hk
    rw [position, holds.lookup_of_shown hl hf shown (name ▸ taken), Option.getD_some, asRead_of_isWhole (whole f hf)]

end Holds

theorem finite_of_isWhole {es : List Element} (whole : ∀ e ∈ es, e.position.IsWhole) : HasFinitePositions es :=
  fun e he => ⟨isFinite_of_isWhole (whole e he).1, isFinite_of_isWhole (whole e he).2⟩

/-- Behind a document, every element is in its place. -/
theorem placed_feedAll (ids : IdSource) (h : ws.IsLegible) (whole : ∀ e ∈ ws.elements, e.position.IsWhole)
    (drawn : Nat) (draws : Draws ids rename drawn (Tree.preorderAll ws.forest)) :
    List.Forall₂ (fun e c => e.1.Mirrors rename c ∧ e.1.IsPlaced ws e.2 c) (Tree.preorderAll ws.forest).zipIdx
      (Builder.feedAll ids { drawn } (tokenize (String.ofList
        ((Outline.block (workspaceHeader ws) (workspaceParts ws)).text usualStep)))).buildElements := by
  have indent : IsIndent usualStep := by decide
  have holds := Builder.holds_document indent h ((finite_of_isWhole whole).shown _) drawn draws
  exact holds.forall₂_zipIdx_elements h fun i e p he reads =>
    ⟨⟨reads.id, reads.kind, reads.name, reads.parentId⟩, holds.isPlaced_elementOf h whole i he reads⟩

/-- The elements of a document stand where those of its workspace do, as far as their positions are recorded. -/
theorem positions_document (ids : IdSource) (drawn : Nat) (h : ws.IsLegible)
    (whole : ∀ e ∈ ws.elements, e.position.IsWhole) :
    ∃ text, document ws = .ok text ∧ ((braceCounts text).1 = (braceCounts text).2 →
      ∃ p, parse ids drawn text = .ok p ∧
        ∃ order rename, ws.Preorder (ws.childrenOf none) order ∧ order.Perm ws.elements ∧
          List.Forall₂ (fun e c => e.1.Mirrors rename c ∧ e.1.IsPlaced ws e.2 c)
            order.zipIdx p.workspace.elements) := by
  have perm := perm_preorder_forest h.ids h.acyclic
  obtain ⟨rename, draws⟩ := exists_draws ids drawn ((perm.map _).nodup_iff.2 h.ids)
  refine ⟨_, write_eq (finite_of_isWhole whole) usualStep, fun balanced => ⟨_, parse_of_balanced ids drawn balanced,
    Tree.preorderAll ws.forest, rename, preorder_forest h, perm, ?_⟩⟩
  rw [Builder.build_elements]
  exact placed_feedAll ids h whole drawn draws

/-- A group, and a person whose id happens to be the identifier that the group will be given. -/
def crew : Workspace :=
  { name := "Crew", description := ""
    elements :=
      [{ id := "team", kind := .group, name := "Team" },
        { id := "group_i", kind := .person, name := "Ann", position := ⟨.ofInt 700, .ofInt 500⟩ }]
    views := [landscapeView "All"] }

theorem isLegible_crew : crew.IsLegible where
  ids := by decide
  lastOfId := by decide
  parents := by decide
  acyclic := ParentsFirst.acyclic (by decide) (by decide)
  texts := by decide

theorem isWhole_crew : ∀ e ∈ crew.elements, e.position.IsWhole := by decide +kernel

theorem balanced_crew {text : String} (written : document crew = .ok text) :
    (braceCounts text).1 = (braceCounts text).2 := by
  rw [Except.ok.inj (written.symm.trans (write_eq (finite_of_isWhole isWhole_crew) usualStep))]
  simp only [braceCounts, String.toList_ofList]
  decide +kernel

theorem positions_document_crew :
    ∃ text p, document crew = .ok text ∧ parse IdSource.strokes 0 text = .ok p ∧
      ∃ order rename, crew.Preorder (crew.childrenOf none) order ∧
        List.Forall₂ (fun e c => e.1.Mirrors rename c ∧ e.1.IsPlaced crew e.2 c) order.zipIdx p.workspace.elements := by
  obtain ⟨text, written, read⟩ := positions_document IdSource.strokes 0 isLegible_crew isWhole_crew
  obtain ⟨p, parsed, order, rename, preorder, _, placed⟩ := read (balanced_crew written)
  exact ⟨text, p, written, parsed, order, rename, preorder, placed⟩

/-- The group stands where the person does, and not on its cell of the grid. -/
theorem not_apart_document_crew :
    ∃ text p team ann, document crew = .ok text ∧ (braceCounts text).1 = (braceCounts text).2 ∧
      parse IdSource.strokes 0 text = .ok p ∧ p.workspace.elements = [team, ann] ∧ team.kind = .group ∧
        ann.kind = .person ∧ team.position = ann.position ∧ team.position ≠ gridCell 0 := by
  have written := write_eq (finite_of_isWhole isWhole_crew) usualStep
  have balanced := balanced_crew written
  have order : Tree.preorderAll crew.forest = crew.elements := by decide
  obtain ⟨rename, draws⟩ := exists_draws IdSource.strokes 0 isLegible_crew.ids
  have placed := placed_feedAll IdSource.strokes isLegible_crew isWhole_crew 0 (order ▸ draws)
  rw [order] at placed
  obtain ⟨team, later, ⟨mirror, place⟩, second, elements⟩ := List.forall₂_cons_left_iff.1 placed
  obtain ⟨ann, others, ⟨mirror', place'⟩, nothing, rfl⟩ := List.forall₂_cons_left_iff.1 second
  obtain rfl := List.forall₂_nil_left_iff.1 nothing
  have shows : crew.Shows .person := ⟨landscapeView "All", by decide, .inl rfl, by decide⟩
  have drawn : team.id = "i" := mirror.id.trans draws.1
  have position := place.taken rfl _ (List.mem_cons_of_mem _ List.mem_cons_self) shows (by rw [drawn]; decide)
  refine ⟨_, _, team, ann, written, balanced, parse_of_balanced _ 0 balanced, ?_, mirror.kind, mirror'.kind,
    position.trans (place'.shown (by decide) shows).symm, ?_⟩
  · rw [Builder.build_elements]
    exact elements
  · rw [position]
    decide +kernel

end Dsl

end Blueprint
