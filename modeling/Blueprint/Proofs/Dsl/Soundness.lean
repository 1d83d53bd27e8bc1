/-
  Blueprint.Proofs.Dsl.Soundness — what holds of every workspace that is read from a document (`parse_dsl`).

  The ids of a parsed workspace were drawn for it, one after the other; only the root view has an id of
  its own. Its elements are those that were declared, in their order. Relationships and views stand only
  where their references led to an element, and covering the workspace adds views for elements that exist.

  Proved: a document with as many opening as closing braces is read, and the workspace has integrity,
  parents in front, anchors that exist and all the views it should have (`parse_sound`).
-/

import Blueprint.Dsl.Document
import Blueprint.Proofs.Dsl.Declared
import Blueprint.Proofs.Except
import Blueprint.Proofs.Validation.Problems
import Blueprint.Proofs.View.Coverage

namespace Blueprint

namespace Dsl

namespace Builder

variable {ids : IdSource} {b : Builder}

/-! ## Elements -/

theorem ids_buildElements (b : Builder) : b.buildElements.map (·.id) = b.elements.map (·.id) := by
  refine List.ext_getElem? fun i => ?_
  simp only [buildElements, List.getElem?_map, List.getElem?_mapIdx, Option.map_map]
  rfl

theorem mem_buildElements {p : PendingElement} (h : p ∈ b.elements) : ∃ i, b.elementOf i p ∈ b.buildElements := by
  obtain ⟨i, hi, rfl⟩ := List.getElem_of_mem h
  exact ⟨i, List.mem_mapIdx.2 ⟨i, hi, rfl⟩⟩

theorem Sound.parentsFirst (h : Sound ids b) : ParentsFirst b.buildElements := by
  intro before e after split parent hp
  obtain ⟨ps, qs, hb, hbefore, hafter⟩ := List.mapIdx_eq_append_iff.1 split
  obtain ⟨q, rest, rfl, rfl, _⟩ := List.mapIdx_eq_cons_iff.1 hafter
  have front : parent ∈ ps.map (·.id) := h.parents ps q rest hb parent hp
  have same : before.map (·.id) = ps.map (·.id) := by
    rw [← hbefore]
    refine List.ext_getElem? fun i => ?_
    simp only [List.getElem?_map, List.getElem?_mapIdx, Option.map_map]
    rfl
  rwa [same]

theorem Sound.isEnd_of_resolve (h : Sound ids b) {name id : String} (hr : b.table.resolve name = some id) :
    IsEnd b.buildElements id := by
  obtain ⟨p, hp, rfl, hk⟩ := h.names name id hr
  obtain ⟨i, hi⟩ := mem_buildElements hp
  exact ⟨_, hi, rfl, hk⟩

/-! ## Relationships -/

theorem endsOf?_eq_some {p : PendingRelationship} {source target : String} (h : b.endsOf? p = some (source, target)) :
    b.table.resolve p.source = some source ∧ b.table.resolve p.target = some target := by
  have lookup : ∀ {reference id : String}, b.idOf? reference = some id → b.table.resolve reference = some id := by
    intro reference id hid
    obtain ⟨found, hfound, e⟩ := Option.bind_eq_some_iff.1 hid
    split at e
    · cases e
    · cases e; exact hfound
  unfold endsOf? at h
  split at h
  · next hs ht => cases h; exact ⟨lookup hs, lookup ht⟩
  · cases h

theorem ids_resolveRelationships (ids : IdSource) (b : Builder) (drawn : Nat) (ps : List PendingRelationship) :
    (b.resolveRelationships ids drawn ps).1.map (·.id) =
        ids.following drawn (b.resolveRelationships ids drawn ps).1.length ∧
      (b.resolveRelationships ids drawn ps).2.2 = drawn + (b.resolveRelationships ids drawn ps).1.length := by
  induction ps generalizing drawn with
  | nil => exact ⟨rfl, rfl⟩
  | cons p ps ih =>
    rw [resolveRelationships]
    cases b.endsOf? p with
    | none => exact ih drawn
    | some ends =>
      obtain ⟨names, count⟩ := ih (drawn + 1)
      simp only [List.map_cons, List.length_cons, IdSource.following_succ, names, count, true_and]
      omega

theorem ends_resolveRelationships (h : Sound ids b) {drawn : Nat} {ps : List PendingRelationship} {r : Relationship}
    (hr : r ∈ (b.resolveRelationships ids drawn ps).1) :
    IsEnd b.buildElements r.sourceId ∧ IsEnd b.buildElements r.targetId := by
  induction ps generalizing drawn with
  | nil => cases hr
  | cons p ps ih =>
    rw [resolveRelationships] at hr
    cases he : b.endsOf? p with
    | none => exact ih (by simpa only [he] using hr)
    | some ends =>
      simp only [he, List.mem_cons] at hr
      rcases hr with rfl | hr
      · obtain ⟨source, target⟩ := endsOf?_eq_some he
        exact ⟨h.isEnd_of_resolve source, h.isEnd_of_resolve target⟩
      · exact ih hr

/-! ## Views -/

theorem exists_of_isEnd {es : List Element} {id : String} (h : IsEnd es id) : ∃ e ∈ es, some id = some e.id :=
  let ⟨e, he, hid, _⟩ := h
  ⟨e, he, congrArg some hid.symm⟩

theorem resolveView_sound (h : Sound ids b) {p : PendingView} (hp : p.Sound) {v : View}
    (hv : b.resolveView b.buildElements p = .ok v) :
    v.id = p.view.id ∧ (v.id = landscapeId → v.kind = .systemLandscape) ∧ v.IsAnchored b.buildElements := by
  have free : ∀ {w : View}, w.kind = .systemLandscape ∨ w.kind = .deployment → w.IsAnchored b.buildElements := by
    intro w hw needs
    rcases hw with hw | hw <;> simp [hw] at needs
  unfold resolveView at hv
  cases ha : p.anchor with
  | none =>
    simp only [ha, Except.ok.injEq] at hv
    subst hv
    exact ⟨rfl, hp.root, free (.inl (hp.anchor ha))⟩
  | some anchor =>
    simp only [ha] at hv
    by_cases hk : p.view.kind = .deployment
    · rw [if_pos hk] at hv
      split at hv
      · simp only [Except.ok.injEq] at hv
        subst hv
        split <;> exact ⟨rfl, hp.root, free (.inr hk)⟩
      · simp only [Except.ok.injEq] at hv
        subst hv
        exact ⟨rfl, hp.root, free (.inr hk)⟩
    · rw [if_neg hk] at hv
      split at hv
      · cases hv
      · next id hid =>
        have found : IsEnd b.buildElements id := by
          split at hid
          · cases hid
          · exact h.isEnd_of_resolve hid
        simp only [Except.ok.injEq] at hv
        subst hv
        split
        · next hc => exact ⟨rfl, hp.root, fun _ => by simpa [View.anchorId, hc] using exists_of_isEnd found⟩
        · next hc => exact ⟨rfl, hp.root, fun _ => by simpa [View.anchorId, hc] using exists_of_isEnd found⟩

theorem resolveViews_sound (h : Sound ids b) {ps : List PendingView} (hps : ∀ p ∈ ps, p.Sound) :
    ((b.resolveViews b.buildElements ps).1.map (·.id)).Sublist (ps.map (·.view.id)) ∧
      ∀ v ∈ (b.resolveViews b.buildElements ps).1,
        (v.id = landscapeId → v.kind = .systemLandscape) ∧ v.IsAnchored b.buildElements := by
  induction ps with
  | nil => exact ⟨.slnil, by simp [resolveViews]⟩
  | cons p ps ih =>
    obtain ⟨sub, all⟩ := ih fun q hq => hps q (List.mem_cons_of_mem _ hq)
    rw [resolveViews]
    cases hv : b.resolveView b.buildElements p with
    | error w => exact ⟨sub.cons _, all⟩
    | ok v =>
      obtain ⟨hid, root, anchored⟩ := resolveView_sound h (hps p List.mem_cons_self) hv
      refine ⟨?_, ?_⟩
      · rw [List.map_cons, List.map_cons, hid]
        exact sub.cons_cons _
      · intro w hw
        rcases List.mem_cons.1 hw with rfl | hw
        · exact ⟨root, anchored⟩
        · exact all w hw

/-! ## The whole document -/

/-- The count of ids drawn for elements, views and relationships. -/
def drawnForAll (ids : IdSource) (b : Builder) : Nat := (b.resolveRelationships ids b.drawn b.relationships).2.2

/-- The workspace before the missing views are added. -/
def uncovered (ids : IdSource) (b : Builder) : Workspace :=
  { name := b.name, description := (b.heading.map (·.2)).getD "", elements := b.buildElements
    relationships := (b.resolveRelationships ids b.drawn b.relationships).1
    views := (b.resolveViews b.buildElements b.views).1 }

theorem build_workspace (ids : IdSource) (b : Builder) :
    (b.build ids).workspace = ((b.uncovered ids).cover ids (b.drawnForAll ids)).1 := rfl

theorem build_drawn (ids : IdSource) (b : Builder) :
    (b.build ids).drawn = ((b.uncovered ids).cover ids (b.drawnForAll ids)).2 := rfl

theorem build_elements (ids : IdSource) (b : Builder) : (b.build ids).workspace.elements = b.buildElements := by
  obtain ⟨_, _, eq⟩ := (b.uncovered ids).cover_eq_append ids (b.drawnForAll ids)
  rw [build_workspace, eq]
  rfl

theorem build_relationships (ids : IdSource) (b : Builder) :
    (b.build ids).workspace.relationships = (b.resolveRelationships ids b.drawn b.relationships).1 := by
  obtain ⟨_, _, eq⟩ := (b.uncovered ids).cover_eq_append ids (b.drawnForAll ids)
  rw [build_workspace, eq]
  rfl

theorem drawnForAll_eq (ids : IdSource) (b : Builder) :
    b.drawnForAll ids = b.drawn + (b.resolveRelationships ids b.drawn b.relationships).1.length :=
  (ids_resolveRelationships ids b b.drawn b.relationships).2

theorem le_build_drawn (ids : IdSource) (b : Builder) :
    b.drawn ≤ b.drawnForAll ids ∧ b.drawnForAll ids ≤ (b.build ids).drawn := by
  obtain ⟨count, _, hcount⟩ := Workspace.ids_cover ids (b.drawnForAll ids) (b.uncovered ids)
  rw [build_drawn, hcount, drawnForAll_eq]
  omega

/-- The views that were declared, with the root view in front of them if it had to be added. -/
theorem Sound.landscape (h : Sound ids b) :
    ((b.uncovered ids).coverLandscape.views.map (·.id)).Nodup ∧
      ∀ v ∈ (b.uncovered ids).coverLandscape.views,
        (v.id = landscapeId ∨ ids.Drawn b.drawn v.id) ∧ v.IsAnchored b.buildElements := by
  obtain ⟨sub, sound⟩ := resolveViews_sound h h.views
  have distinct : ((b.uncovered ids).views.map (·.id)).Nodup := h.viewIds.sublist sub
  have drawn : ∀ v ∈ (b.uncovered ids).views, v.id = landscapeId ∨ ids.Drawn b.drawn v.id := by
    intro v hv
    obtain ⟨w, hw, e⟩ := List.mem_map.1 (sub.subset (List.mem_map_of_mem hv))
    exact e ▸ h.viewDrawn w hw
  obtain ⟨root, hroot, ⟨rfl, _⟩ | ⟨v, rfl, hk, _, _, none, hid⟩⟩ := (b.uncovered ids).coverLandscape_eq
  · rw [hroot]
    exact ⟨distinct, fun v hv => ⟨drawn v hv, (sound v hv).2⟩⟩
  · -- only a landscape view could have had the root view's id
    have others : ∀ w ∈ (b.uncovered ids).views, w.id ≠ landscapeId := by
      intro w hw e
      simp only [hasLandscapeView, List.any_eq_false, beq_iff_eq] at none
      exact none w hw ((sound w hw).1 e)
    rw [hroot]
    refine ⟨?_, ?_⟩
    · rw [List.singleton_append, List.map_cons, hid others]
      refine List.nodup_cons.2 ⟨fun known => ?_, distinct⟩
      obtain ⟨w, hw, e⟩ := List.mem_map.1 known
      exact others w hw e
    · intro w hw
      rcases List.mem_cons.1 hw with rfl | hw
      · exact ⟨.inl (hid others), fun needs => by simp [hk] at needs⟩
      · exact ⟨drawn w hw, (sound w hw).2⟩

theorem Sound.ids_views (hids : ids.Fresh) (h : Sound ids b) :
    ((b.build ids).workspace.views.map (·.id)).Nodup ∧
      ∀ v ∈ (b.build ids).workspace.views, v.id = landscapeId ∨ ids.Drawn (b.build ids).drawn v.id := by
  obtain ⟨distinct, all⟩ := h.landscape
  obtain ⟨count, names, hdrawn⟩ := Workspace.ids_cover ids (b.drawnForAll ids) (b.uncovered ids)
  obtain ⟨le, _⟩ := b.le_build_drawn ids
  have spent : ∀ id ∈ (b.uncovered ids).coverLandscape.views.map (·.id), ids.Spent (b.drawnForAll ids) id := by
    intro id hid
    obtain ⟨v, hv, rfl⟩ := List.mem_map.1 hid
    rcases (all v hv).1 with root | drawn
    · exact root ▸ hids.spent_landscape _
    · exact hids.spent_of_drawn (drawn.mono le)
  refine ⟨?_, ?_⟩
  · rw [build_workspace, names]
    refine List.nodup_append.2 ⟨distinct, hids.nodup_following _ _, ?_⟩
    rintro id known _ added rfl
    exact IdSource.not_spent_following added (spent id known)
  · intro v hv
    have hid : v.id ∈ (b.build ids).workspace.views.map (·.id) := List.mem_map_of_mem hv
    rw [build_workspace, names] at hid
    rw [build_drawn, hdrawn]
    rcases List.mem_append.1 hid with known | added
    · obtain ⟨w, hw, e⟩ := List.mem_map.1 known
      rw [← e]
      exact (all w hw).1.imp_right fun drawn => drawn.mono (by omega)
    · exact .inr (IdSource.drawn_of_mem_following added)

theorem Sound.isAnchored (h : Sound ids b) {v : View} (hv : v ∈ (b.build ids).workspace.views) :
    v.IsAnchored b.buildElements := by
  rcases Workspace.mem_cover hv with old | ⟨e, he, id, rfl⟩ | ⟨e, _, id, rfl⟩
  · exact ((h.landscape).2 v old).2
  · exact fun _ => ⟨e, he, rfl⟩
  · exact fun needs => by simp [deploymentViewFor] at needs

theorem ids_build_relationships (hids : ids.Fresh) (b : Builder) :
    ((b.build ids).workspace.relationships.map (·.id)).Nodup ∧
      ∀ r ∈ (b.build ids).workspace.relationships, ids.Drawn (b.build ids).drawn r.id := by
  obtain ⟨names, count⟩ := ids_resolveRelationships ids b b.drawn b.relationships
  obtain ⟨_, le⟩ := b.le_build_drawn ids
  rw [build_relationships]
  refine ⟨names ▸ hids.nodup_following _ _, fun r hr => ?_⟩
  have hid := List.mem_map_of_mem (f := (·.id)) hr
  rw [names] at hid
  exact (IdSource.drawn_of_mem_following hid).mono (by rw [← drawnForAll_eq]; exact le)

theorem Sound.drawn_element (h : Sound ids b) {e : Element} (he : e ∈ (b.build ids).workspace.elements) :
    ids.Drawn (b.build ids).drawn e.id := by
  rw [build_elements] at he
  have hid := List.mem_map_of_mem (f := (·.id)) he
  rw [ids_buildElements] at hid
  obtain ⟨p, hp, e⟩ := List.mem_map.1 hid
  obtain ⟨le, le'⟩ := b.le_build_drawn ids
  exact e ▸ (h.elementDrawn p hp).mono (Nat.le_trans le le')

theorem Sound.integrity (hids : ids.Fresh) (h : Sound ids b) : (b.build ids).workspace.Integrity := by
  have elements : (b.buildElements.map (·.id)).Nodup := by rw [ids_buildElements]; exact h.elementIds
  refine ⟨?_, (ids_build_relationships hids b).1, (h.ids_views hids).1, ?_, ?_, ?_⟩
  · rw [Workspace.elementIds, build_elements]
    exact elements
  · intro e he parent hp
    rw [build_elements] at he
    rw [Workspace.elementIds, build_elements]
    exact h.parentsFirst.mem_parent he hp
  · rw [build_elements]
    exact h.parentsFirst.acyclic elements
  · intro r hr
    rw [build_relationships] at hr
    rw [build_elements]
    exact ends_resolveRelationships h hr

end Builder

/-! ## Reading -/

theorem parse_of_balanced (ids : IdSource) (drawn : Nat) {text : String}
    (balanced : (braceCounts text).1 = (braceCounts text).2) :
    parse ids drawn text = .ok ((Builder.feedAll ids { drawn } (tokenize text)).build ids) := by
  have checked : checkBalance text = .ok () := if_pos balanced
  rw [parse, checked]
  rfl

/-- Only the braces matter. -/
theorem exists_parse_iff (ids : IdSource) (drawn : Nat) (text : String) :
    (∃ p, parse ids drawn text = .ok p) ↔ (braceCounts text).1 = (braceCounts text).2 := by
  refine ⟨fun ⟨p, read⟩ => ?_, fun balanced => ⟨_, parse_of_balanced ids drawn balanced⟩⟩
  by_contra apart
  have refused : checkBalance text = .error (.unbalancedBraces (braceCounts text).1 (braceCounts text).2) :=
    if_neg apart
  rw [parse, refused] at read
  cases read

theorem eq_build_of_parse {ids : IdSource} {drawn : Nat} {text : String} {p : Parsed}
    (h : parse ids drawn text = .ok p) :
    p = (Builder.feedAll ids { drawn } (tokenize text)).build ids := by
  obtain ⟨_, _, e⟩ := map_eq_ok.1 h
  exact e.symm

/-- The braces decide whether a document is read; whatever else it says, the workspace is sound. -/
theorem parse_sound {ids : IdSource} (hids : ids.Fresh) (drawn : Nat) (text : String)
    (balanced : (braceCounts text).1 = (braceCounts text).2) :
    ∃ p, parse ids drawn text = .ok p ∧ p.workspace.Integrity ∧ ParentsFirst p.workspace.elements ∧
      (∀ v ∈ p.workspace.views, v.IsAnchored p.workspace.elements) ∧
      hasLandscapeView p.workspace.views = true ∧
      (∀ e ∈ p.workspace.elements, e.kind = .softwareSystem → hasContainerView p.workspace.views e = true) ∧
      (∀ e ∈ p.workspace.elements, e.kind = .deploymentNode → hasDeploymentView p.workspace.views e = true) ∧
      ∀ problem ∈ p.workspace.problems, problem.severity = .error →
        (∃ e ∈ p.workspace.elements, isBlankText e.name = true ∧ problem = .emptyName e.id) ∨
          ∃ v ∈ p.workspace.views, ∃ e ∈ p.workspace.elements, ∃ expected, v.anchorId = some e.id ∧
            v.kind.anchorKind = some expected ∧ e.kind ≠ expected ∧
            problem = .viewFault v.id (.anchorOfWrongKind v.key expected.label e.kind.label) := by
  have sound := Builder.sound_feedAll hids drawn (tokenize text)
  refine ⟨_, parse_of_balanced ids drawn balanced, ?_⟩
  generalize Builder.feedAll ids { drawn } (tokenize text) = b at sound
  have integrity := sound.integrity hids
  have anchored : ∀ v ∈ (b.build ids).workspace.views, v.IsAnchored (b.build ids).workspace.elements := by
    intro v hv
    rw [Builder.build_elements]
    exact sound.isAnchored hv
  have filled : ∀ v ∈ (b.build ids).workspace.views, isBlankText v.id = false := by
    intro v hv
    rcases (sound.ids_views hids).2 v hv with root | ⟨n, _, e⟩
    · rw [root]; rfl
    · exact e ▸ hids.notBlank n
  refine ⟨integrity, ?_, anchored, ?_, ?_, ?_, ?_⟩
  · rw [Builder.build_elements]
    exact sound.parentsFirst
  · exact Workspace.hasLandscapeView_cover ids _ _
  · intro e he hk
    rw [Builder.build_elements] at he
    exact Workspace.hasContainerView_cover he hk
  · intro e he hk
    rw [Builder.build_elements] at he
    exact Workspace.hasDeploymentView_cover he hk
  · exact fun problem hp error => integrity.error_of_mem_problems filled anchored hp error

theorem parse_sound_nested :
    ∃ p, parse IdSource.strokes 0
        "workspace \x7b model \x7b a = softwareSystem \"A\" \x7b b = container \"B\" \x7d b -> a \"Uses\" \x7d \x7d" = .ok p ∧
      p.workspace.Integrity := by
  obtain ⟨p, hp, integrity, _⟩ := parse_sound IdSource.fresh_strokes 0
    "workspace \x7b model \x7b a = softwareSystem \"A\" \x7b b = container \"B\" \x7d b -> a \"Uses\" \x7d \x7d" (by decide)
  exact ⟨p, hp, integrity⟩

end Dsl

end Blueprint
