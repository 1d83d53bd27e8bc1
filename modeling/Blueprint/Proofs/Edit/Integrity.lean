/-
  Blueprint.Proofs.Edit.Integrity — changes that keep a model's references.

  A new element, relationship or view keeps them if its id is new. An element may move under another one
  that is not inside it. A renamed element takes all references to it along, and a deleted one takes
  away what is inside it with every relationship at any of that.

  Proved: each of these keeps the integrity of a model (`Integrity.insert`, `Integrity.move`,
  `Integrity.rekeyed`, `Integrity.without`, `Integrity.connect`).
-/

import Blueprint.Edit.Change
import Blueprint.Proofs.Except
import Blueprint.Proofs.Identifier.FreeName
import Blueprint.Proofs.Model.Integrity

namespace Blueprint

open Relation

namespace Workspace

variable {ws : Workspace}

theorem element?_eq_some {id : String} {e : Element} (h : ws.element? id = some e) : e ∈ ws.elements ∧ e.id = id :=
  ⟨List.mem_of_find?_eq_some h, by simpa using List.find?_some h⟩

theorem requireElement_eq_ok {id : String} {e : Element} (h : ws.requireElement id = .ok e) :
    ws.element? id = some e := by
  unfold requireElement at h
  split at h
  · next found => cases h; exact found
  · cases h

theorem mem_withDescendants {root id : String} : id ∈ ws.withDescendants root ↔ ws.IsWithin root id := by
  rw [withDescendants, List.mem_cons, mem_descendants, IsWithin]

/-- What ends a relationship now still does, if its element keeps its id and its kind. -/
theorem isEnd_of_subset {es fs : List Element} (keep : ∀ e ∈ es, ∃ f ∈ fs, f.id = e.id ∧ f.kind = e.kind)
    {id : String} (h : IsEnd es id) : IsEnd fs id := by
  obtain ⟨e, he, rfl, hk⟩ := h
  obtain ⟨f, hf, hid, hkind⟩ := keep e he
  exact ⟨f, hf, hid, hkind ▸ hk⟩

namespace Integrity

theorem mem_of_transGen {child parent : String} (h : ws.Integrity)
    (chain : TransGen (IsInside ws.elements) child parent) :
    parent ∈ ws.elementIds := by
  cases chain with
  | single link => exact link.mem h.parents
  | tail _ link => exact link.mem h.parents

/-! ## Elements -/

theorem insert (h : ws.Integrity) {e : Element} (new : e.id ∉ ws.elementIds)
    (parent : ∀ p, e.parentId = some p → p ∈ ws.elementIds) :
    Integrity { ws with elements := ws.elements ++ [e] } := by
  refine ⟨?_, h.relationshipIds, h.viewIds, ?_, ?_, ?_⟩
  · rw [Workspace.elementIds, List.map_append, List.map_singleton, ← List.concat_eq_append]
    exact h.elementIds.concat new
  · intro f hf p hp
    simp only [Workspace.elementIds, List.map_append]
    rcases List.mem_append.1 hf with hf | hf
    · exact List.mem_append_left _ (h.parents f hf p hp)
    · rw [List.mem_singleton.1 hf] at hp
      exact List.mem_append_left _ (parent p hp)
  · cases hp : e.parentId with
    | none =>
      refine h.acyclic.mono ?_
      rintro c p ⟨f, hf, hid, hfp⟩
      rcases List.mem_append.1 hf with hf | hf
      · exact ⟨f, hf, hid, hfp⟩
      · rw [List.mem_singleton.1 hf, hp] at hfp
        cases hfp
    | some parentId =>
      refine h.acyclic.insert ?_ ?_ (a := e.id) (b := parentId)
      · rintro c p ⟨f, hf, hid, hfp⟩
        rcases List.mem_append.1 hf with hf | hf
        · exact .inl ⟨f, hf, hid, hfp⟩
        · rw [List.mem_singleton.1 hf] at hid hfp
          rw [hp] at hfp
          cases hfp
          exact .inr ⟨hid.symm, rfl⟩
      · -- no link leads to an id that is new
        intro chain
        rcases reflTransGen_iff_eq_or_transGen.1 chain with same | chain
        · exact new (same ▸ parent parentId hp)
        · exact new (h.mem_of_transGen chain)
  · intro r hr
    have keep : ∀ f ∈ ws.elements, ∃ g ∈ ws.elements ++ [e], g.id = f.id ∧ g.kind = f.kind :=
      fun f hf => ⟨f, List.mem_append_left _ hf, rfl, rfl⟩
    exact (h.ends r hr).imp (isEnd_of_subset keep) (isEnd_of_subset keep)

/-- Every element stays what it was, but the one with an id may get another parent. -/
theorem move (h : ws.Integrity) (id : String) (new : Option String)
    (free : ∀ p, new = some p → p ∈ ws.elementIds ∧ ¬ ReflTransGen (IsInside ws.elements) p id)
    {g : Element → Element} (ids : ∀ e ∈ ws.elements, (g e).id = e.id ∧ (g e).kind = e.kind)
    (parent : ∀ e ∈ ws.elements, (g e).parentId = e.parentId ∨ (e.id = id ∧ (g e).parentId = new)) :
    Integrity { ws with elements := ws.elements.map g } := by
  have same : (ws.elements.map g).map (·.id) = ws.elements.map (·.id) := by
    rw [List.map_map]
    exact List.map_congr_left fun e he => (ids e he).1
  refine ⟨?_, h.relationshipIds, h.viewIds, ?_, ?_, ?_⟩
  · rw [Workspace.elementIds, same]
    exact h.elementIds
  · intro f hf p hp
    obtain ⟨e, he, rfl⟩ := List.mem_map.1 hf
    rw [Workspace.elementIds, same]
    rcases parent e he with old | ⟨_, changed⟩
    · exact h.parents e he p (old ▸ hp)
    · exact (free p (changed ▸ hp)).1
  · cases hnew : new with
    | none =>
      refine h.acyclic.mono ?_
      rintro c p ⟨f, hf, hid, hp⟩
      obtain ⟨e, he, rfl⟩ := List.mem_map.1 hf
      rcases parent e he with old | ⟨_, changed⟩
      · exact ⟨e, he, (ids e he).1 ▸ hid, old ▸ hp⟩
      · rw [changed, hnew] at hp
        cases hp
    | some q =>
      refine h.acyclic.insert ?_ (free q hnew).2
      rintro c p ⟨f, hf, hid, hp⟩
      obtain ⟨e, he, rfl⟩ := List.mem_map.1 hf
      rcases parent e he with old | ⟨here, changed⟩
      · exact .inl ⟨e, he, (ids e he).1 ▸ hid, old ▸ hp⟩
      · rw [changed, hnew] at hp
        cases hp
        exact .inr ⟨hid.symm.trans ((ids e he).1.trans here), rfl⟩
  · intro r hr
    have keep : ∀ e ∈ ws.elements, ∃ f ∈ ws.elements.map g, f.id = e.id ∧ f.kind = e.kind :=
      fun e he => ⟨g e, List.mem_map_of_mem he, ids e he⟩
    exact (h.ends r hr).imp (isEnd_of_subset keep) (isEnd_of_subset keep)

end Integrity

/-! ## A new id -/

section

variable {old new : String}

/-- The id before `old` became `new`. -/
def unkey (old new id : String) : String := if id = new then old else id

theorem unkey_rekey {id : String} (free : id ≠ old → id ≠ new) : unkey old new (rekey old new id) = id := by
  by_cases h : id = old
  · simp [unkey, rekey, h]
  · simp [unkey, rekey, h, free h]

/-- Another element does not have the new id. -/
theorem injective_rekey (free : ∀ i ∈ ws.elementIds, i ≠ old → i ≠ new) :
    ∀ a ∈ ws.elementIds, ∀ b ∈ ws.elementIds, rekey old new a = rekey old new b → a = b := by
  intro a ha b hb same
  rw [← unkey_rekey (free a ha), same, unkey_rekey (free b hb)]

theorem id_rekeyed (newName : String) (e : Element) : (e.rekeyed old new newName).id = rekey old new e.id := by
  unfold Element.rekeyed rekey
  split
  · rfl
  · split <;> rfl

theorem kind_rekeyed (newName : String) (e : Element) : (e.rekeyed old new newName).kind = e.kind := by
  unfold Element.rekeyed
  split
  · rfl
  · split <;> rfl

theorem elementIds_rekeyed (ws : Workspace) (newName : String) :
    (ws.rekeyed old new newName).elementIds = ws.elementIds.map (rekey old new) := by
  simp only [Workspace.elementIds, Workspace.rekeyed, List.map_map]
  exact List.map_congr_left fun e _ => id_rekeyed newName e

theorem viewId_rekeyed (v : View) : (v.rekeyed old new).id = v.id := by
  unfold View.rekeyed
  split
  · rfl
  · split <;> rfl

/-- An element is not inside itself, so that its own parent cannot be what is renamed with it. -/
theorem parentId_rekeyed (newName : String) {e : Element} (outside : e.parentId ≠ some e.id) :
    (e.rekeyed old new newName).parentId = e.parentId.map (rekey old new) := by
  unfold Element.rekeyed
  split
  · next h =>
    cases hp : e.parentId with
    | none => rfl
    | some p =>
      have other : p ≠ old := fun same => outside (by rw [hp, same, h])
      simp [rekey, other]
  · split
    · next h => simp [h, rekey]
    · next h =>
      cases hp : e.parentId with
      | none => rfl
      | some p =>
        have other : p ≠ old := fun same => h (by rw [hp, same])
        simp [rekey, other]

theorem renamedId_free (e : Element) (newName : String) {id : String} (h : id ∈ ws.elementIds) (other : id ≠ e.id) :
    id ≠ ws.renamedId e newName := by
  rintro rfl
  obtain ⟨f, hf, hid⟩ := mem_elementIds.1 h
  refine elementIdentity_not_mem e.kind newName _ (List.mem_map.2 ⟨f, List.mem_filter.2 ⟨hf, ?_⟩, hid⟩)
  simpa [hid] using other

end

namespace Integrity

/-- The renamed element's id is none that another element has. -/
theorem rekeyed (h : ws.Integrity) {old new : String} (free : ∀ id ∈ ws.elementIds, id ≠ old → id ≠ new)
    (newName : String) : (ws.rekeyed old new newName).Integrity := by
  have ids : (ws.rekeyed old new newName).elementIds = ws.elementIds.map (rekey old new) :=
    elementIds_rekeyed ws newName
  have back : ∀ id ∈ ws.elementIds, unkey old new (rekey old new id) = id :=
    fun id hid => unkey_rekey (free id hid)
  have keep : ∀ {id}, IsEnd ws.elements id → IsEnd (ws.rekeyed old new newName).elements (rekey old new id) := by
    rintro id ⟨e, he, rfl, hk⟩
    exact ⟨_, List.mem_map_of_mem he, id_rekeyed newName e, by rw [kind_rekeyed]; exact hk⟩
  refine ⟨?_, ?_, ?_, ?_, ?_, ?_⟩
  · rw [ids]
    exact h.elementIds.map_on (injective_rekey free)
  · simp only [Workspace.rekeyed, List.map_map]
    exact h.relationshipIds
  · have same : (ws.rekeyed old new newName).views.map (·.id) = ws.views.map (·.id) := by
      simp only [Workspace.rekeyed, List.map_map]
      exact List.map_congr_left fun v _ => viewId_rekeyed v
    rw [same]
    exact h.viewIds
  · intro f hf p hp
    obtain ⟨e, he, rfl⟩ := List.mem_map.1 hf
    rw [parentId_rekeyed newName (h.acyclic.parentId_ne he)] at hp
    obtain ⟨q, hq, rfl⟩ := Option.map_eq_some_iff.1 hp
    rw [ids]
    exact List.mem_map_of_mem (h.parents e he q hq)
  · refine h.acyclic.of_map (unkey old new) ?_
    rintro c p ⟨f, hf, rfl, hp⟩
    obtain ⟨e, he, rfl⟩ := List.mem_map.1 hf
    rw [parentId_rekeyed newName (h.acyclic.parentId_ne he)] at hp
    obtain ⟨q, hq, rfl⟩ := Option.map_eq_some_iff.1 hp
    rw [id_rekeyed, back _ (List.mem_map_of_mem he), back q (h.parents e he q hq)]
    exact ⟨e, he, rfl, hq⟩
  · intro s hs
    obtain ⟨r, hr, rfl⟩ := List.mem_map.1 hs
    exact (h.ends r hr).imp keep keep

/-! ## Taking away -/

/-- What is inside something removed is removed, too. -/
theorem without (h : ws.Integrity) {removed : List String}
    (closed : ∀ e ∈ ws.elements, ∀ p, e.parentId = some p → p ∈ removed → e.id ∈ removed) :
    (ws.without removed).Integrity := by
  have mem : ∀ {e : Element}, e ∈ (ws.without removed).elements ↔ e ∈ ws.elements ∧ e.id ∉ removed := by
    intro e
    simp [Workspace.without]
  have keep : ∀ {id}, IsEnd ws.elements id → id ∉ removed → IsEnd (ws.without removed).elements id := by
    rintro id ⟨e, he, rfl, hk⟩ stays
    exact ⟨e, mem.2 ⟨he, stays⟩, rfl, hk⟩
  refine ⟨?_, ?_, ?_, ?_, ?_, ?_⟩
  · exact h.elementIds.sublist (List.filter_sublist.map _)
  · exact h.relationshipIds.sublist (List.filter_sublist.map _)
  · exact h.viewIds.sublist (List.filter_sublist.map _)
  · intro e he p hp
    obtain ⟨old, stays⟩ := mem.1 he
    obtain ⟨f, hf, rfl⟩ := mem_elementIds.1 (h.parents e old p hp)
    exact mem_elementIds.2 ⟨f, mem.2 ⟨hf, fun gone => stays (closed e old _ hp gone)⟩, rfl⟩
  · refine h.acyclic.mono ?_
    rintro c p ⟨e, he, hid, hp⟩
    exact ⟨e, (mem.1 he).1, hid, hp⟩
  · intro r hr
    simp only [Workspace.without, List.mem_filter, Bool.and_eq_true, Bool.not_eq_true', List.contains_eq_mem,
      decide_eq_false_iff_not] at hr
    obtain ⟨old, source, target⟩ := hr
    exact ⟨keep (h.ends r old).1 source, keep (h.ends r old).2 target⟩

theorem without_descendants (h : ws.Integrity) (id : String) : (ws.without (ws.withDescendants id)).Integrity :=
  h.without fun e he _ hp gone => mem_withDescendants.2 ((mem_withDescendants.1 gone).child ⟨e, he, rfl, hp⟩)

/-! ## Relationships and views -/

theorem connect (h : ws.Integrity) {rs : List Relationship} (ids : (rs.map (·.id)).Nodup)
    (ends : ∀ r ∈ rs, IsEnd ws.elements r.sourceId ∧ IsEnd ws.elements r.targetId) :
    Integrity { ws with relationships := rs } :=
  ⟨h.elementIds, ids, h.viewIds, h.parents, h.acyclic, ends⟩

theorem withViews (h : ws.Integrity) {vs : List View} (ids : (vs.map (·.id)).Nodup) :
    Integrity { ws with views := vs } :=
  ⟨h.elementIds, h.relationshipIds, ids, h.parents, h.acyclic, h.ends⟩

end Integrity

theorem isEnd_of_checkEndpoint {id : String} (h : ws.checkEndpoint id = .ok ()) : IsEnd ws.elements id := by
  unfold checkEndpoint at h
  split at h
  · next e he =>
    split at h
    · cases h
    · next hk =>
      obtain ⟨mem, rfl⟩ := element?_eq_some he
      exact ⟨e, mem, rfl, hk⟩
  · cases h

end Workspace

end Blueprint
