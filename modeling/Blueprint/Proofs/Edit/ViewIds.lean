/-
  Blueprint.Proofs.Edit.ViewIds — what a change makes of the views.

  Most changes leave every view under its id. A new element or view brings ids that are drawn for it, a
  rename puts one made id in the place of another, and only two changes take views away: a view may be
  deleted unless it is the last one, and a deleted element takes those along that are about it.

  Proved: this is all that a change can do to the ids of views (`viewsAfter_apply`), so they stay apart
  (`viewsApart_apply`).
-/

import Blueprint.Proofs.Edit.Applied
import Blueprint.Proofs.Identifier.Source

namespace Blueprint

/-- No view gets an id that is chosen for it. -/
def Change.KeepsViewIds : Change → Prop
  | .addView given _ => given = none
  | .updateView id u => ∀ new, u.id = some new → new = id
  | _ => True

namespace Workspace

variable {ids : IdSource} {drawn : Nat} {ws : Workspace} {o : Outcome}

theorem ids_drillDownViews (ids : IdSource) (drawn : Nat) (e : Element) :
    ∃ count, (drillDownViews ids drawn e).1.map (·.id) = ids.following drawn count ∧
      (drillDownViews ids drawn e).2 = drawn + count := by
  unfold drillDownViews
  split
  · exact ⟨1, rfl, rfl⟩
  · exact ⟨1, rfl, rfl⟩
  · exact ⟨0, rfl, rfl⟩

/-! ## The views afterwards -/

/-- What a change that succeeded made of the views. -/
inductive ViewsAfter (ids : IdSource) (drawn : Nat) (ws : Workspace) (o : Outcome) : Change → Prop
  | kept {c : Change} (names : o.workspace.views.map (·.id) = ws.views.map (·.id)) : ViewsAfter ids drawn ws o c
  | joined {c : Change} (first count : Nat) (le : drawn ≤ first) (last : o.drawn = first + count)
      (names : o.workspace.views.map (·.id) = ws.views.map (·.id) ++ ids.following first count) :
      ViewsAfter ids drawn ws o c
  | renamed {id newName : String} (other : id ≠ landscapeId) (found : (ws.view? id).isSome)
      (names : o.workspace.views.map (·.id) = (ws.views.map (·.id)).map (rekey id (ws.renamedViewId id newName))) :
      ViewsAfter ids drawn ws o (.renameView id newName)
  | deleted {id : String} (notLast : ws.views.length ≠ 1) (left : o.workspace.views = ws.views.filter (·.id != id)) :
      ViewsAfter ids drawn ws o (.deleteView id)
  | takenAlong {id : String} (found : (ws.element? id).isSome)
      (left : o.workspace.views = ws.views.filter fun v => !isAbout (ws.withDescendants id) v) :
      ViewsAfter ids drawn ws o (.deleteElement id)

/-- Views that are put in the places of others, under ids that are made of those of the others. -/
theorem map_id_views {vs : List View} {g : View → View} {f : String → String} (names : ∀ v ∈ vs, (g v).id = f v.id) :
    (vs.map g).map (·.id) = (vs.map (·.id)).map f := by
  rw [List.map_map, List.map_map]
  exact List.map_congr_left names

theorem map_id_views_eq {vs : List View} {g : View → View} (names : ∀ v ∈ vs, (g v).id = v.id) :
    (vs.map g).map (·.id) = vs.map (·.id) := by
  rw [map_id_views (f := id) names, List.map_id]

theorem viewsAfter_apply {c : Change} (keeps : c.KeepsViewIds) (ho : ws.apply ids drawn c = .ok o) :
    ViewsAfter ids drawn ws o c := by
  cases applied_of_apply ho with
  | addElement chosen _ _ =>
    obtain ⟨count, names, last⟩ := ids_drillDownViews ids _ _
    refine .joined _ count (IdSource.le_of_choose chosen) last ?_
    rw [List.map_append]
    exact congrArg (ws.views.map (·.id) ++ ·) names
  | renameElement found => exact .kept (map_id_views_eq fun v _ => viewId_rekeyed v)
  | deleteElement found => exact .takenAlong (by rw [found]; rfl) rfl
  | addView chosen _ _ _ =>
    cases (show _ = none from keeps)
    obtain ⟨hid, rfl⟩ := Prod.mk.inj chosen
    exact .joined drawn 1 (Nat.le_refl _) rfl (by rw [List.map_append, List.map_singleton, ← hid]; rfl)
  | updateView found =>
    rename_i id u v subject
    have same : v.id = id := by simpa using List.find?_some found
    refine .kept (map_id_views_eq fun x _ => ?_)
    split
    · next here =>
      show u.id.getD v.id = x.id
      cases hid : u.id with
      | none => exact same.trans here.symm
      | some new => exact (keeps new hid).trans here.symm
    · rfl
  | renameRoot found =>
    refine .kept (map_id_views_eq fun x _ => ?_)
    split <;> rfl
  | renameView other found made =>
    refine .renamed other (by rw [found]; rfl) (map_id_views fun x _ => ?_)
    rw [made]
    unfold rekey
    split <;> rfl
  | deleteView notLast => exact .deleted notLast rfl
  | _ => exact .kept rfl

theorem renamedViewId_free {id newName other : String} (h : other ∈ ws.views.map (·.id)) (apart : other ≠ id) :
    other ≠ ws.renamedViewId id newName := by
  rintro rfl
  obtain ⟨v, hv, hid⟩ := List.mem_map.1 h
  refine viewIdentity_not_mem newName _ (List.mem_map.2 ⟨v, List.mem_filter.2 ⟨hv, ?_⟩, hid⟩)
  simpa [hid] using apart

/-- The ids of views stay apart, if one that is made for a view is never drawn. -/
theorem viewsApart_apply (hids : ids.Fresh) (h : ids.Apart drawn (ws.views.map (·.id))) {c : Change}
    (keeps : c.KeepsViewIds)
    (made : ∀ id newName, c = .renameView id newName → id ≠ landscapeId → (ws.view? id).isSome →
      ids.Spent drawn (ws.renamedViewId id newName))
    (ho : ws.apply ids drawn c = .ok o) : ids.Apart o.drawn (o.workspace.views.map (·.id)) := by
  have le := drawn_le_apply ho
  cases viewsAfter_apply keeps ho with
  | kept names => exact names ▸ h.mono le
  | joined first count later last names =>
    rw [names, last]
    exact (h.mono later).following hids count
  | renamed other found names =>
    rename_i id newName
    rw [names]
    refine (h.map (fun a ha b hb same => ?_) fun a ha => ?_).mono le
    · rw [← unkey_rekey (renamedViewId_free ha), same, unkey_rekey (renamedViewId_free hb)]
    · unfold rekey
      split
      · exact made id newName rfl other found
      · exact h.spent a ha
  | deleted _ left =>
    rw [left]
    exact (h.sublist (List.filter_sublist.map _)).mono le
  | takenAlong _ left =>
    rw [left]
    exact (h.sublist (List.filter_sublist.map _)).mono le

end Workspace

end Blueprint
