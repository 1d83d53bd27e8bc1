/-
  Blueprint.Proofs.Edit.Applied — what a change has done that went through.

  A change is checked before anything is done, so one that went through has met its conditions, and the
  workspace after it is the one before with something put in, put in the place of something, or taken away.
  What a change keeps is shown by going through these cases.

  Proved: this is all that a change can do (`applied_of_apply`); ids are drawn forward (`drawn_le_apply`).
-/

import Blueprint.Proofs.Edit.Integrity

namespace Blueprint

theorem IdSource.le_of_choose {ids : IdSource} {drawn last : Nat} {given : Option String} {id : String}
    (h : ids.choose drawn given = (id, last)) : drawn ≤ last := by
  cases given with
  | none => cases h; exact Nat.le_succ _
  | some id => cases h; exact Nat.le_refl _

namespace Workspace

variable {ids : IdSource} {drawn : Nat} {ws : Workspace} {o : Outcome}

/-! ## Elements -/

theorem addElement_eq_ok {e : Element} {r : Workspace × Nat} (h : ws.addElement ids drawn e = .ok r) :
    (∀ p, e.parentId = some p → p ∈ ws.elementIds) ∧
      r = ({ ws with elements := ws.elements ++ [e], views := ws.views ++ (drillDownViews ids drawn e).1 },
        (drillDownViews ids drawn e).2) := by
  unfold addElement at h
  cases hp : e.parentId with
  | none =>
    simp only [hp] at h
    cases h
    exact ⟨fun _ hq => (nomatch hq), rfl⟩
  | some parent =>
    simp only [hp] at h
    obtain ⟨e, he, h⟩ := bind_eq_ok.1 h
    cases h
    refine ⟨fun p hq => ?_, rfl⟩
    cases hq
    exact mem_elementIds.2 ⟨e, element?_eq_some (requireElement_eq_ok he)⟩

theorem checkNesting_eq_ok {id parent : String} (h : ws.checkNesting id parent = .ok ()) :
    parent ∈ ws.elementIds ∧ ¬ Relation.ReflTransGen (IsInside ws.elements) parent id := by
  obtain ⟨e, he, h⟩ := bind_eq_ok.1 h
  refine ⟨mem_elementIds.2 ⟨e, element?_eq_some (requireElement_eq_ok he)⟩, fun chain => ?_⟩
  split at h
  · cases h
  · next outside =>
    rcases Relation.reflTransGen_iff_eq_or_transGen.1 chain with same | chain
    · exact outside (.inl same.symm)
    · exact outside (.inr (mem_descendants.2 chain))

theorem updateElement_eq_ok {id : String} {u : ElementUpdate} {after : Workspace}
    (h : ws.updateElement id u = .ok after) :
    ∃ e ∈ ws.elements, e.id = id ∧ after = ws.replaceElement id (u.apply e) ∧
      ∀ p, u.parentId = some (some p) → p ∈ ws.elementIds ∧ ¬ Relation.ReflTransGen (IsInside ws.elements) p id := by
  obtain ⟨e, he, h⟩ := bind_eq_ok.1 h
  obtain ⟨mem, hid⟩ := element?_eq_some (requireElement_eq_ok he)
  refine ⟨e, mem, hid, ?_⟩
  cases hp : u.parentId with
  | none =>
    simp only [hp] at h
    cases h
    exact ⟨rfl, fun _ hq => (nomatch hq)⟩
  | some q =>
    cases q with
    | none =>
      simp only [hp] at h
      cases h
      exact ⟨rfl, fun _ hq => (nomatch hq)⟩
    | some parent =>
      simp only [hp] at h
      obtain ⟨_, checked, h⟩ := bind_eq_ok.1 h
      cases h
      refine ⟨rfl, fun p hq => ?_⟩
      cases hq
      exact checkNesting_eq_ok checked

theorem elementIds_replaceElement (ws : Workspace) {id : String} {e : Element} (same : e.id = id) :
    (ws.replaceElement id e).elementIds = ws.elementIds := by
  simp only [elementIds, replaceElement, List.map_map]
  refine List.map_congr_left fun x _ => ?_
  simp only [Function.comp]
  split
  · next here => rw [same, here]
  · rfl

/-- With one element for each id, what is put in the place of an element is made of that very element. -/
theorem replaceElement_eq (distinct : ws.elementIds.Nodup) {e : Element} (he : e ∈ ws.elements)
    (f : Element → Element) :
    ws.replaceElement e.id (f e) = { ws with elements := ws.elements.map fun x => if x.id = e.id then f x else x } := by
  simp only [replaceElement, Workspace.mk.injEq, true_and, and_true]
  refine List.map_congr_left fun x hx => ?_
  split
  · next same => rw [List.inj_on_of_nodup_map distinct hx he same]
  · rfl

/-! ## Relationships -/

theorem requireRelationship_eq_ok {id : String} {r : Relationship} (h : ws.requireRelationship id = .ok r) :
    r ∈ ws.relationships ∧ r.id = id := by
  unfold requireRelationship at h
  split at h
  · next found =>
    cases h
    exact ⟨List.mem_of_find?_eq_some found, by simpa using List.find?_some found⟩
  · cases h

theorem updateRelationship_eq_ok {id : String} {u : RelationshipUpdate} {after : Workspace}
    (h : ws.updateRelationship id u = .ok after) :
    ∃ r ∈ ws.relationships, r.id = id ∧
      after = { ws with relationships := ws.relationships.map fun x => if x.id = id then u.apply r else x } ∧
      (∀ s, u.sourceId = some s → IsEnd ws.elements s) ∧ ∀ t, u.targetId = some t → IsEnd ws.elements t := by
  obtain ⟨r, hr, h⟩ := bind_eq_ok.1 h
  obtain ⟨mem, hid⟩ := requireRelationship_eq_ok hr
  refine ⟨r, mem, hid, ?_⟩
  cases hs : u.sourceId <;> cases ht : u.targetId <;> simp only [hs, ht] at h
  case none.none =>
    cases h
    exact ⟨rfl, fun _ e => (nomatch e), fun _ e => (nomatch e)⟩
  case none.some =>
    obtain ⟨_, target, h⟩ := bind_eq_ok.1 h
    cases h
    exact ⟨rfl, fun _ e => (nomatch e), fun _ e => by cases e; exact isEnd_of_checkEndpoint target⟩
  case some.none =>
    obtain ⟨_, source, h⟩ := bind_eq_ok.1 h
    cases h
    exact ⟨rfl, fun _ e => by cases e; exact isEnd_of_checkEndpoint source, fun _ e => (nomatch e)⟩
  case some.some =>
    obtain ⟨_, source, h⟩ := bind_eq_ok.1 h
    obtain ⟨_, target, h⟩ := bind_eq_ok.1 h
    cases h
    exact ⟨rfl, fun _ e => by cases e; exact isEnd_of_checkEndpoint source,
      fun _ e => by cases e; exact isEnd_of_checkEndpoint target⟩

/-! ## Views -/

theorem requireView_eq_ok {id : String} {v : View} (h : ws.requireView id = .ok v) : ws.view? id = some v := by
  unfold requireView at h
  split at h
  · next found => cases h; exact found
  · cases h

/-- An update of a view that exists goes through, whatever it asks for. -/
theorem exists_updateView {id : String} {v : View} (found : ws.view? id = some v) (u : ViewUpdate) (ids : IdSource)
    (drawn : Nat) : ∃ o, ws.apply ids drawn (.updateView id u) = .ok o ∧ o.workspace.elements = ws.elements ∧
      u.apply v ∈ o.workspace.views := by
  have update : ws.updateView id u =
      .ok { ws with views := ws.views.map fun x => if x.id = id then u.apply v else x } := by
    simp only [updateView, requireView, found]
    rfl
  refine ⟨_, by simp only [Workspace.apply, update]; rfl, rfl, ?_⟩
  exact List.mem_map.2 ⟨v, List.mem_of_find?_eq_some found, if_pos (by simpa using List.find?_some found)⟩

theorem mem_of_checkAnchor {anchor : Option String} (h : ws.checkAnchor anchor = .ok ()) :
    ∀ id ∈ anchor, id ∈ ws.elementIds := by
  rintro id rfl
  unfold checkAnchor at h
  dsimp only at h
  split at h
  · next found =>
    obtain ⟨e, he⟩ := Option.isSome_iff_exists.1 found
    exact mem_elementIds.2 ⟨e, element?_eq_some he⟩
  · cases h

/-! ## All changes -/

/-- The conditions of a change, and what comes of it. -/
inductive Applied (ids : IdSource) (drawn : Nat) (ws : Workspace) : Change → Outcome → Prop
  | setInfo {name description : Option String} {subject : Subject} :
      Applied ids drawn ws (.setInfo name description) ⟨ws.setInfo name description, subject, drawn⟩
  | addElement {given : Option String} {draft : ElementDraft} {e : Element} {first : Nat} {subject : Subject}
      (chosen : ids.choose drawn given = (e.id, first)) (made : e = draft.withId e.id)
      (parent : ∀ p, draft.parentId = some p → p ∈ ws.elementIds) :
      Applied ids drawn ws (.addElement given draft)
        ⟨{ ws with elements := ws.elements ++ [e], views := ws.views ++ (drillDownViews ids first e).1 }, subject,
          (drillDownViews ids first e).2⟩
  | updateElement {id : String} {u : ElementUpdate} {e : Element} {subject : Subject} (mem : e ∈ ws.elements)
      (named : e.id = id) (free : ∀ p, u.parentId = some (some p) →
        p ∈ ws.elementIds ∧ ¬ Relation.ReflTransGen (IsInside ws.elements) p id) :
      Applied ids drawn ws (.updateElement id u) ⟨ws.replaceElement id (u.apply e), subject, drawn⟩
  | renameElement {id newName : String} {e : Element} {subject : Subject} (found : ws.element? id = some e) :
      Applied ids drawn ws (.renameElement id newName)
        ⟨ws.rekeyed id (ws.renamedId e newName) newName, subject, drawn⟩
  | deleteElement {id : String} {e : Element} {subject : Subject} (found : ws.element? id = some e) :
      Applied ids drawn ws (.deleteElement id) ⟨ws.without (ws.withDescendants id), subject, drawn⟩
  | addRelationship {given : Option String} {draft : RelationshipDraft} {r : Relationship} {last : Nat}
      {subject : Subject} (chosen : ids.choose drawn given = (r.id, last)) (made : r = draft.withId r.id)
      (source : IsEnd ws.elements draft.sourceId) (target : IsEnd ws.elements draft.targetId) :
      Applied ids drawn ws (.addRelationship given draft)
        ⟨{ ws with relationships := ws.relationships ++ [r] }, subject, last⟩
  | updateRelationship {id : String} {u : RelationshipUpdate} {r : Relationship} {subject : Subject}
      (mem : r ∈ ws.relationships) (named : r.id = id) (source : ∀ s, u.sourceId = some s → IsEnd ws.elements s)
      (target : ∀ t, u.targetId = some t → IsEnd ws.elements t) :
      Applied ids drawn ws (.updateRelationship id u)
        ⟨{ ws with relationships := ws.relationships.map fun x => if x.id = id then u.apply r else x }, subject, drawn⟩
  | deleteRelationship {id : String} {subject : Subject} :
      Applied ids drawn ws (.deleteRelationship id)
        ⟨{ ws with relationships := ws.relationships.filter (·.id != id) }, subject, drawn⟩
  | addView {given : Option String} {draft : ViewDraft} {v : View} {last : Nat} {subject : Subject}
      (chosen : ids.choose drawn given = (v.id, last)) (made : v = draft.withId v.id)
      (system : ∀ id ∈ draft.softwareSystemId, id ∈ ws.elementIds)
      (container : ∀ id ∈ draft.containerId, id ∈ ws.elementIds) :
      Applied ids drawn ws (.addView given draft) ⟨{ ws with views := ws.views ++ [v] }, subject, last⟩
  | updateView {id : String} {u : ViewUpdate} {v : View} {subject : Subject} (found : ws.view? id = some v) :
      Applied ids drawn ws (.updateView id u)
        ⟨{ ws with views := ws.views.map fun x => if x.id = id then u.apply v else x }, subject, drawn⟩
  | renameRoot {newName : String} {v : View} {subject : Subject} (found : ws.view? landscapeId = some v) :
      Applied ids drawn ws (.renameView landscapeId newName)
        ⟨{ ws with views := ws.views.map fun x => if x.id = landscapeId then { x with name := newName } else x },
          subject, drawn⟩
  | renameView {id newName new : String} {v : View} {subject : Subject} (other : id ≠ landscapeId)
      (found : ws.view? id = some v) (made : ws.renamedViewId id newName = new) :
      Applied ids drawn ws (.renameView id newName)
        ⟨{ ws with views := ws.views.map fun x => if x.id = id then { x with id := new, key := new, name := newName }
          else x }, subject, drawn⟩
  | deleteView {id : String} {subject : Subject} (notLast : ws.views.length ≠ 1) :
      Applied ids drawn ws (.deleteView id) ⟨{ ws with views := ws.views.filter (·.id != id) }, subject, drawn⟩

theorem applied_of_apply {c : Change} (ho : ws.apply ids drawn c = .ok o) : ws.Applied ids drawn c o := by
  cases c with
  | setInfo name description =>
    cases ho
    exact .setInfo
  | addElement given draft =>
    obtain ⟨r, hr, ho⟩ := bind_eq_ok.1 ho
    cases ho
    obtain ⟨parent, rfl⟩ := addElement_eq_ok hr
    exact .addElement (e := draft.withId (ids.choose drawn given).1) rfl rfl parent
  | updateElement id u =>
    obtain ⟨after, hafter, ho⟩ := bind_eq_ok.1 ho
    cases ho
    obtain ⟨e, mem, named, rfl, free⟩ := updateElement_eq_ok hafter
    exact .updateElement mem named free
  | renameElement id newName =>
    obtain ⟨after, hafter, ho⟩ := bind_eq_ok.1 ho
    cases ho
    obtain ⟨e, he, hafter⟩ := bind_eq_ok.1 hafter
    cases hafter
    exact .renameElement (requireElement_eq_ok he)
  | deleteElement id =>
    obtain ⟨after, hafter, ho⟩ := bind_eq_ok.1 ho
    cases ho
    obtain ⟨e, he, hafter⟩ := bind_eq_ok.1 hafter
    cases hafter
    exact .deleteElement (requireElement_eq_ok he)
  | addRelationship given draft =>
    obtain ⟨after, hafter, ho⟩ := bind_eq_ok.1 ho
    cases ho
    obtain ⟨_, source, hafter⟩ := bind_eq_ok.1 hafter
    obtain ⟨_, target, hafter⟩ := bind_eq_ok.1 hafter
    cases hafter
    exact .addRelationship (r := draft.withId (ids.choose drawn given).1) rfl rfl (isEnd_of_checkEndpoint source)
      (isEnd_of_checkEndpoint target)
  | updateRelationship id u =>
    obtain ⟨after, hafter, ho⟩ := bind_eq_ok.1 ho
    cases ho
    obtain ⟨r, mem, named, rfl, source, target⟩ := updateRelationship_eq_ok hafter
    exact .updateRelationship mem named source target
  | deleteRelationship id =>
    obtain ⟨after, hafter, ho⟩ := bind_eq_ok.1 ho
    cases ho
    obtain ⟨r, _, hafter⟩ := bind_eq_ok.1 hafter
    cases hafter
    exact .deleteRelationship
  | addView given draft =>
    obtain ⟨after, hafter, ho⟩ := bind_eq_ok.1 ho
    cases ho
    obtain ⟨_, system, hafter⟩ := bind_eq_ok.1 hafter
    obtain ⟨_, container, hafter⟩ := bind_eq_ok.1 hafter
    cases hafter
    exact .addView (v := draft.withId (ids.choose drawn given).1) rfl rfl (mem_of_checkAnchor system)
      (mem_of_checkAnchor container)
  | updateView id u =>
    obtain ⟨after, hafter, ho⟩ := bind_eq_ok.1 ho
    cases ho
    obtain ⟨v, hv, hafter⟩ := bind_eq_ok.1 hafter
    cases hafter
    exact .updateView (requireView_eq_ok hv)
  | renameView id newName =>
    obtain ⟨after, hafter, ho⟩ := bind_eq_ok.1 ho
    cases ho
    obtain ⟨v, hv, hafter⟩ := bind_eq_ok.1 hafter
    cases hafter
    by_cases root : id = landscapeId
    · cases root
      exact .renameRoot (requireView_eq_ok hv)
    · simp only [root, if_false]
      exact .renameView root (requireView_eq_ok hv) rfl
  | deleteView id =>
    obtain ⟨after, hafter, ho⟩ := bind_eq_ok.1 ho
    cases ho
    obtain ⟨v, _, hafter⟩ := bind_eq_ok.1 hafter
    split at hafter
    · cases hafter
    · next notLast =>
      cases hafter
      exact .deleteView notLast

theorem le_drillDownViews (ids : IdSource) (drawn : Nat) (e : Element) : drawn ≤ (drillDownViews ids drawn e).2 := by
  unfold drillDownViews
  split
  · exact Nat.le_succ _
  · exact Nat.le_succ _
  · exact Nat.le_refl _

/-- Ids are drawn forward. -/
theorem drawn_le_apply {c : Change} (ho : ws.apply ids drawn c = .ok o) : drawn ≤ o.drawn := by
  cases applied_of_apply ho with
  | addElement chosen _ _ => exact Nat.le_trans (IdSource.le_of_choose chosen) (le_drillDownViews ids _ _)
  | addRelationship chosen _ _ _ => exact IdSource.le_of_choose chosen
  | addView chosen _ _ _ => exact IdSource.le_of_choose chosen
  | _ => exact Nat.le_refl _

end Workspace

end Blueprint
