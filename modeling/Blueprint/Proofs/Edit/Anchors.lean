/-
  Blueprint.Proofs.Edit.Anchors — changes and the elements that views are about.

  A view that is added needs anchors that exist, and a view that comes along with an element is about that
  element. A renamed element takes the anchors along, and a deleted one takes the views away. An update alone
  takes an anchor as it is given, and does not look for the element.

  Proved: every other change keeps the anchors (`AnchorsExist.apply`), and such an update loses them
  (`LosesAnchor.apply`).
-/

import Blueprint.Proofs.Edit.Subtree

namespace Blueprint

/-- The view is about none but these elements. -/
structure View.AnchoredAmong (known : List String) (v : View) : Prop where
  system : ∀ id ∈ v.softwareSystemId, id ∈ known
  container : ∀ id ∈ v.containerId, id ∈ known

instance (known : List String) (v : View) : Decidable (v.AnchoredAmong known) :=
  decidable_of_iff ((∀ id ∈ v.softwareSystemId, id ∈ known) ∧ ∀ id ∈ v.containerId, id ∈ known)
    ⟨fun h => ⟨h.1, h.2⟩, fun h => ⟨h.system, h.container⟩⟩

namespace View

variable {known : List String} {v : View}

theorem AnchoredAmong.mono (h : v.AnchoredAmong known) {more : List String} (sub : known ⊆ more) :
    v.AnchoredAmong more :=
  ⟨fun id hid => sub (h.system id hid), fun id hid => sub (h.container id hid)⟩

theorem anchoredAmong_of_none (system : v.softwareSystemId = none) (container : v.containerId = none) :
    v.AnchoredAmong known := by
  refine ⟨fun id hid => ?_, fun id hid => ?_⟩
  · rw [system] at hid
    cases hid
  · rw [container] at hid
    cases hid

theorem anchored_containerViewFor (e : Element) (id : String) (mem : e.id ∈ known) :
    (containerViewFor e id).AnchoredAmong known := by
  refine ⟨fun anchor h => ?_, fun anchor h => (nomatch h)⟩
  cases h
  exact mem

theorem anchored_componentViewFor (e : Element) (id : String) (mem : e.id ∈ known) :
    (componentViewFor e id).AnchoredAmong known := by
  refine ⟨fun anchor h => (nomatch h), fun anchor h => ?_⟩
  cases h
  exact mem

/-- Both anchors follow an element with a new id, whether the view is about it or not. -/
theorem anchors_rekeyed (old new : String) (v : View) :
    (v.rekeyed old new).softwareSystemId = v.softwareSystemId.map (rekey old new) ∧
      (v.rekeyed old new).containerId = v.containerId.map (rekey old new) := by
  have kept : ∀ anchor : Option String, anchor ≠ some old → anchor = anchor.map (rekey old new) := by
    intro anchor other
    cases anchor with
    | none => rfl
    | some id =>
      have apart : id ≠ old := fun same => other (congrArg some same)
      simp [rekey, apart]
  unfold View.rekeyed
  split
  · exact ⟨rfl, rfl⟩
  · next other =>
    obtain ⟨system, container⟩ := not_or.1 other
    split <;> exact ⟨kept _ system, kept _ container⟩

theorem AnchoredAmong.rekeyed (h : v.AnchoredAmong known) (old new : String) :
    (v.rekeyed old new).AnchoredAmong (known.map (rekey old new)) := by
  have moved : ∀ {anchor : Option String}, (∀ id ∈ anchor, id ∈ known) →
      ∀ id ∈ anchor.map (rekey old new), id ∈ known.map (rekey old new) := by
    intro anchor there id hid
    obtain ⟨before, hbefore, rfl⟩ := Option.map_eq_some_iff.1 hid
    exact List.mem_map_of_mem (there before hbefore)
  obtain ⟨system, container⟩ := anchors_rekeyed old new v
  exact ⟨system ▸ moved h.system, container ▸ moved h.container⟩

end View

namespace Workspace

/-- No view is about an element that does not exist. -/
def AnchorsExist (ws : Workspace) : Prop := ∀ v ∈ ws.views, v.AnchoredAmong ws.elementIds

instance (ws : Workspace) : Decidable ws.AnchorsExist := List.decidableBAll _ ws.views

/-- A view that exists is given an anchor that does not. -/
def LosesAnchor (ws : Workspace) : Change → Prop
  | .updateView id u =>
    (ws.view? id).isSome ∧ ∃ anchor, anchor ∉ ws.elementIds ∧
      (u.softwareSystemId = some (some anchor) ∨ u.containerId = some (some anchor))
  | _ => False

variable {ids : IdSource} {drawn : Nat} {ws : Workspace} {o : Outcome}

/-! ## Changes -/

theorem anchored_drillDownViews {e : Element} {v : View} (h : v ∈ (drillDownViews ids drawn e).1) :
    v.AnchoredAmong [e.id] := by
  unfold drillDownViews at h
  split at h
  · rw [List.mem_singleton.1 h]
    exact View.anchored_containerViewFor e _ (List.mem_singleton_self _)
  · rw [List.mem_singleton.1 h]
    exact View.anchored_componentViewFor e _ (List.mem_singleton_self _)
  · cases h

/-- A view that stays is about elements that stay. -/
theorem AnchorsExist.without (h : ws.AnchorsExist) (removed : List String) : (ws.without removed).AnchorsExist := by
  intro v hv
  have stays : ∀ {id}, id ∈ ws.elementIds → id ∉ removed → id ∈ (ws.without removed).elementIds := by
    intro id hid kept
    obtain ⟨e, he, rfl⟩ := mem_elementIds.1 hid
    exact mem_elementIds.2 ⟨e, by simpa [Workspace.without, he] using kept, rfl⟩
  obtain ⟨old, other⟩ := List.mem_filter.1 hv
  have apart : ¬ v.IsAbout (· ∈ removed) := fun about => by simp [isAbout_iff.2 about] at other
  exact ⟨fun id hid => stays ((h v old).system id hid) fun gone => apart (.inl ⟨id, hid, gone⟩),
    fun id hid => stays ((h v old).container id hid) fun gone => apart (.inr (.inl ⟨id, hid, gone⟩))⟩

/-- A new value for an anchor exists, or there is none and the old one stays. -/
theorem anchored_update {known : List String} {v : View} (h : v.AnchoredAmong known) {u : ViewUpdate}
    (system : ∀ anchor, u.softwareSystemId = some (some anchor) → anchor ∈ known)
    (container : ∀ anchor, u.containerId = some (some anchor) → anchor ∈ known) : (u.apply v).AnchoredAmong known := by
  have either : ∀ {given : Option (Option String)} {old : Option String},
      (∀ anchor, given = some (some anchor) → anchor ∈ known) → (∀ id ∈ old, id ∈ known) →
        ∀ id ∈ given.getD old, id ∈ known := by
    intro given old new there id hid
    cases given with
    | none => exact there id hid
    | some anchor => exact new id (congrArg some hid)
  exact ⟨either system h.system, either container h.container⟩

/-- Every change keeps the anchors, but an update that gives one that does not exist. -/
theorem AnchorsExist.apply (h : ws.AnchorsExist) {c : Change} (keeps : ¬ ws.LosesAnchor c)
    (ho : ws.apply ids drawn c = .ok o) : o.workspace.AnchorsExist := by
  cases applied_of_apply ho with
  | setInfo | addRelationship | updateRelationship | deleteRelationship => exact h
  | @addElement _ _ e first _ chosen made parent =>
    have known : ws.elementIds ⊆ (ws.elements ++ [e]).map (·.id) := by
      rw [List.map_append]
      exact List.subset_append_left _ _
    intro v hv
    rcases List.mem_append.1 hv with old | new
    · exact (h v old).mono known
    · refine (anchored_drillDownViews new).mono ?_
      simp [elementIds]
  | @updateElement id u e _ mem named free =>
    intro v hv
    rw [elementIds_replaceElement ws (show (u.apply e).id = id from named)]
    exact h v hv
  | renameElement found =>
    intro v hv
    obtain ⟨w, hw, rfl⟩ := List.mem_map.1 hv
    rw [elementIds_rekeyed]
    exact (h w hw).rekeyed _ _
  | deleteElement found => exact h.without _
  | @addView _ draft v _ _ chosen made system container =>
    intro w hw
    rcases List.mem_append.1 hw with old | new
    · exact h w old
    · rw [List.mem_singleton.1 new, made]
      exact ⟨system, container⟩
  | @updateView id u v _ found =>
    -- The only case in which nothing looks for the new anchors.
    have there : v ∈ ws.views := List.mem_of_find?_eq_some found
    have new : ∀ anchor, u.softwareSystemId = some (some anchor) ∨ u.containerId = some (some anchor) →
        anchor ∈ ws.elementIds := by
      intro anchor given
      by_contra missing
      exact keeps ⟨by rw [found]; rfl, anchor, missing, given⟩
    intro w hw
    obtain ⟨x, hx, rfl⟩ := List.mem_map.1 hw
    split
    · exact anchored_update (h v there) (fun anchor e => new anchor (.inl e)) fun anchor e => new anchor (.inr e)
    · exact h x hx
  | renameRoot | renameView =>
    intro w hw
    obtain ⟨x, hx, rfl⟩ := List.mem_map.1 hw
    split
    · exact ⟨(h x hx).system, (h x hx).container⟩
    · exact h x hx
  | deleteView notLast => exact fun v hv => h v (List.mem_of_mem_filter hv)

/-- The update goes through all the same, and the view is about nothing then. -/
theorem LosesAnchor.apply {c : Change} (loses : ws.LosesAnchor c) (ids : IdSource) (drawn : Nat) :
    ∃ o, ws.apply ids drawn c = .ok o ∧ ¬ o.workspace.AnchorsExist := by
  cases c with
  | updateView id u =>
    obtain ⟨isThere, anchor, missing, given⟩ := loses
    obtain ⟨v, found⟩ := Option.isSome_iff_exists.1 isThere
    obtain ⟨o, ho, same, mem⟩ := exists_updateView found u ids drawn
    refine ⟨o, ho, fun exist => missing ?_⟩
    rw [elementIds, ← same]
    rcases given with system | container
    · exact (exist _ mem).system anchor (by simp [ViewUpdate.apply, system])
    · exact (exist _ mem).container anchor (by simp [ViewUpdate.apply, container])
  | _ => exact loses.elim

end Workspace

end Blueprint
