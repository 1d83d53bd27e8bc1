/-
  Blueprint.Proofs.Edit.Settled — changes one after the other.

  A workspace is settled if it has integrity and none of its ids will be drawn any more. What a change
  adds gets an id that was drawn for it; a client can give no id of its own, nor change the kind or the
  id of anything. Only a rename makes ids in another way, out of names, so it has to be said of these
  that they are not drawn later.

  Proved: a change that can be asked for keeps a workspace settled (`Settled.apply`).
-/

import Blueprint.Proofs.Edit.ViewIds

namespace Blueprint

/-- What a client can ask for: it gives no ids and changes no kinds. -/
def Change.Requested : Change → Prop
  | .addElement given _ => given = none
  | .addRelationship given _ => given = none
  | .addView given _ => given = none
  | .updateElement _ u => u.kind = none ∧ u.name = none
  | .updateRelationship _ u => u.id = none
  | .updateView _ u => u.id = none ∧ u.kind = none ∧ u.name = none
  | _ => True

theorem Change.Requested.keepsViewIds {c : Change} (asked : c.Requested) : c.KeepsViewIds := by
  cases c with
  | addView given draft => exact asked
  | updateView id u =>
    intro new chosen
    rw [asked.1] at chosen
    cases chosen
  | _ => trivial

/-- The change is about views alone. -/
def Change.isOfViews : Change → Bool
  | .addView _ _ | .updateView _ _ | .renameView _ _ | .deleteView _ => true
  | _ => false

namespace Workspace

/-- The id that a change makes out of a name. The root view keeps its own. -/
def idMadeBy (ws : Workspace) : Change → Option String
  | .renameElement id newName => (ws.element? id).map fun e => ws.renamedId e newName
  | .renameView id newName =>
    if id = landscapeId then none else (ws.view? id).map fun _ => ws.renamedViewId id newName
  | _ => none

structure Settled (ids : IdSource) (drawn : Nat) (ws : Workspace) : Prop where
  integrity : ws.Integrity
  elements : ∀ e ∈ ws.elements, ids.Spent drawn e.id
  relationships : ∀ r ∈ ws.relationships, ids.Spent drawn r.id
  views : ∀ v ∈ ws.views, ids.Spent drawn v.id

variable {ids : IdSource} {drawn later : Nat} {ws : Workspace} {o : Outcome}

theorem Settled.mono (h : ws.Settled ids drawn) (le : drawn ≤ later) : ws.Settled ids later :=
  ⟨h.integrity, fun e he => (h.elements e he).mono le, fun r hr => (h.relationships r hr).mono le,
    fun v hv => (h.views v hv).mono le⟩

/-- Nothing has an id that is still to be drawn. -/
theorem Settled.new_element (h : ws.Settled ids drawn) (n : Nat) (le : drawn ≤ n) : ids n ∉ ws.elementIds := by
  intro known
  obtain ⟨e, he, hid⟩ := mem_elementIds.1 known
  exact h.elements e he n le hid.symm

/-! ## Lists that change -/

theorem Settled.relationshipsApart (h : ws.Settled ids drawn) : ids.Apart drawn (ws.relationships.map (·.id)) :=
  ⟨h.integrity.relationshipIds, List.forall_mem_map.2 h.relationships⟩

theorem Settled.viewsApart (h : ws.Settled ids drawn) : ids.Apart drawn (ws.views.map (·.id)) :=
  ⟨h.integrity.viewIds, List.forall_mem_map.2 h.views⟩

/-- Any other views will do if their ids are apart. -/
theorem Settled.ofViews (h : ws.Settled ids drawn) (le : drawn ≤ later) {vs : List View}
    (apart : ids.Apart later (vs.map (·.id))) : Settled ids later { ws with views := vs } :=
  ⟨h.integrity.withViews apart.distinct, (h.mono le).elements, (h.mono le).relationships,
    List.forall_mem_map.1 apart.spent⟩

theorem Settled.withViews (hids : ids.Fresh) (h : ws.Settled ids drawn) (vs : List View) (count : Nat)
    (names : vs.map (·.id) = ids.following drawn count) :
    Settled ids (drawn + count) { ws with views := ws.views ++ vs } := by
  refine h.ofViews (Nat.le_add_right _ _) ?_
  rw [List.map_append, names]
  exact h.viewsApart.following hids count

/-! ## Elements -/

theorem Settled.addElement (hids : ids.Fresh) (h : ws.Settled ids drawn) {draft : ElementDraft}
    (ho : ws.apply ids drawn (.addElement none draft) = .ok o) : o.workspace.Settled ids o.drawn := by
  cases applied_of_apply ho with
  | @addElement _ _ e first _ chosen made parent =>
    obtain ⟨hid, rfl⟩ := Prod.mk.inj chosen
    have enclosing : ∀ p, e.parentId = some p → p ∈ ws.elementIds := made ▸ parent
    obtain ⟨count, names, last⟩ := ids_drillDownViews ids (drawn + 1) e
    have inserted : Settled ids (drawn + 1) { ws with elements := ws.elements ++ [e] } := by
      refine ⟨h.integrity.insert (hid ▸ h.new_element drawn (Nat.le_refl _)) enclosing, fun f hf => ?_,
        (h.mono (Nat.le_succ _)).relationships, (h.mono (Nat.le_succ _)).views⟩
      rcases List.mem_append.1 hf with hf | hf
      · exact (h.elements f hf).mono (Nat.le_succ _)
      · rw [List.mem_singleton.1 hf, ← hid]
        exact hids.spent_succ drawn
    have shown := inserted.withViews hids _ _ names
    rwa [← last] at shown

theorem Settled.updateElement (h : ws.Settled ids drawn) {id : String} {u : ElementUpdate}
    (asked : (Change.updateElement id u).Requested) (ho : ws.apply ids drawn (.updateElement id u) = .ok o) :
    o.workspace.Settled ids o.drawn := by
  cases applied_of_apply ho with
  | @updateElement _ _ e _ he named free =>
    subst named
    rw [replaceElement_eq h.integrity.elementIds he]
    have same : ∀ x ∈ ws.elements, ((fun x => if x.id = e.id then u.apply x else x) x).id = x.id ∧
        ((fun x => if x.id = e.id then u.apply x else x) x).kind = x.kind := by
      intro x _
      dsimp only
      split
      · simp [ElementUpdate.apply, asked.1]
      · exact ⟨rfl, rfl⟩
    refine ⟨?_, fun f hf => ?_, h.relationships, h.views⟩
    · cases hp : u.parentId with
      | none =>
        refine h.integrity.move e.id none (fun _ hq => (nomatch hq)) same fun x _ => .inl ?_
        split
        · simp [ElementUpdate.apply, hp]
        · rfl
      | some q =>
        refine h.integrity.move e.id q (fun p hq => free p (hq ▸ hp)) same fun x _ => ?_
        split
        · next here => exact .inr ⟨here, by simp [ElementUpdate.apply, hp]⟩
        · exact .inl rfl
    · obtain ⟨x, hx, rfl⟩ := List.mem_map.1 hf
      rw [(same x hx).1]
      exact h.elements x hx

theorem Settled.renameElement (h : ws.Settled ids drawn) {id newName : String}
    (made : ∀ new, ws.idMadeBy (.renameElement id newName) = some new → ids.Spent drawn new)
    (ho : ws.apply ids drawn (.renameElement id newName) = .ok o) : o.workspace.Settled ids o.drawn := by
  cases applied_of_apply ho with
  | @renameElement _ _ e _ found =>
    obtain ⟨mem, rfl⟩ := element?_eq_some found
    have spent : ids.Spent drawn (ws.renamedId e newName) := made _ (by simp [idMadeBy, found])
    refine ⟨h.integrity.rekeyed (fun i hi => renamedId_free e newName hi) newName, fun f hf => ?_, fun r hr => ?_,
      fun v hv => ?_⟩
    · obtain ⟨x, hx, rfl⟩ := List.mem_map.1 hf
      rw [id_rekeyed, rekey]
      split
      · exact spent
      · exact h.elements x hx
    · obtain ⟨x, hx, rfl⟩ := List.mem_map.1 hr
      exact h.relationships x hx
    · obtain ⟨x, hx, rfl⟩ := List.mem_map.1 hv
      rw [viewId_rekeyed]
      exact h.views x hx

theorem Settled.deleteElement (h : ws.Settled ids drawn) {id : String}
    (ho : ws.apply ids drawn (.deleteElement id) = .ok o) : o.workspace.Settled ids o.drawn := by
  cases applied_of_apply ho with
  | deleteElement _ =>
    exact ⟨h.integrity.without_descendants id, fun f hf => h.elements f (List.mem_of_mem_filter hf),
      fun r hr => h.relationships r (List.mem_of_mem_filter hr), fun v hv => h.views v (List.mem_of_mem_filter hv)⟩

/-! ## Relationships -/

theorem Settled.addRelationship (hids : ids.Fresh) (h : ws.Settled ids drawn) {draft : RelationshipDraft}
    (ho : ws.apply ids drawn (.addRelationship none draft) = .ok o) :
    o.workspace.Settled ids o.drawn := by
  cases applied_of_apply ho with
  | @addRelationship _ _ s last _ chosen made source target =>
    obtain ⟨hid, rfl⟩ := Prod.mk.inj chosen
    have le : drawn ≤ drawn + 1 := Nat.le_succ _
    have apart : ids.Apart (drawn + 1) ((ws.relationships ++ [s]).map (·.id)) := by
      rw [List.map_append, List.map_singleton, ← hid]
      exact h.relationshipsApart.following hids 1
    refine ⟨h.integrity.connect apart.distinct fun r hr => ?_, (h.mono le).elements, List.forall_mem_map.1 apart.spent,
      (h.mono le).views⟩
    rcases List.mem_append.1 hr with hr | hr
    · exact h.integrity.ends r hr
    · rw [List.mem_singleton.1 hr, made]
      exact ⟨source, target⟩

/-- An optional new value is the new one or the old one. -/
theorem getD_cases {α : Type} {p : α → Prop} {o : Option α} {a : α} (new : ∀ b, o = some b → p b) (old : p a) :
    p (o.getD a) := by
  cases o with
  | none => exact old
  | some b => exact new b rfl

theorem Settled.updateRelationship (h : ws.Settled ids drawn) {id : String} {u : RelationshipUpdate}
    (asked : (Change.updateRelationship id u).Requested)
    (ho : ws.apply ids drawn (.updateRelationship id u) = .ok o) :
    o.workspace.Settled ids o.drawn := by
  cases applied_of_apply ho with
  | @updateRelationship _ _ r _ hr named source target =>
    subst named
    have kept : (u.apply r).id = r.id := by simp [RelationshipUpdate.apply, show u.id = none from asked]
    have same : ∀ x : Relationship, (if x.id = r.id then u.apply r else x).id = x.id := by
      intro x
      split
      · next here => exact kept.trans here.symm
      · rfl
    refine ⟨h.integrity.connect ?_ fun s hs => ?_, h.elements, fun s hs => ?_, h.views⟩
    · rw [List.map_map, show (·.id) ∘ (fun x : Relationship => if x.id = r.id then u.apply r else x) = (·.id) from funext same]
      exact h.integrity.relationshipIds
    · obtain ⟨x, hx, rfl⟩ := List.mem_map.1 hs
      split
      · exact ⟨getD_cases source (h.integrity.ends r hr).1, getD_cases target (h.integrity.ends r hr).2⟩
      · exact h.integrity.ends x hx
    · obtain ⟨x, hx, rfl⟩ := List.mem_map.1 hs
      rw [same]
      exact h.relationships x hx

theorem Settled.deleteRelationship (h : ws.Settled ids drawn) {id : String}
    (ho : ws.apply ids drawn (.deleteRelationship id) = .ok o) : o.workspace.Settled ids o.drawn := by
  cases applied_of_apply ho with
  | deleteRelationship =>
    exact ⟨h.integrity.connect (h.integrity.relationshipIds.sublist (List.filter_sublist.map _)) fun r hr =>
      h.integrity.ends r (List.mem_of_mem_filter hr), h.elements,
      fun r hr => h.relationships r (List.mem_of_mem_filter hr), h.views⟩

/-! ## Views -/

/-- What is about views alone leaves everything else. -/
theorem eq_of_isOfViews {c : Change} (alone : c.isOfViews) (ho : ws.apply ids drawn c = .ok o) :
    o.workspace = { ws with views := o.workspace.views } := by
  cases applied_of_apply ho with
  | addView | updateView | renameRoot | renameView | deleteView => rfl
  | _ => cases alone

theorem Settled.changeViews (hids : ids.Fresh) (h : ws.Settled ids drawn) {c : Change} (alone : c.isOfViews)
    (asked : c.Requested) (made : ∀ new, ws.idMadeBy c = some new → ids.Spent drawn new)
    (ho : ws.apply ids drawn c = .ok o) : o.workspace.Settled ids o.drawn := by
  rw [eq_of_isOfViews alone ho]
  refine h.ofViews (drawn_le_apply ho) (viewsApart_apply hids h.viewsApart asked.keepsViewIds ?_ ho)
  rintro id newName rfl other found
  obtain ⟨v, hv⟩ := Option.isSome_iff_exists.1 found
  exact made _ (by simp [idMadeBy, other, hv])

/-! ## Any change -/

theorem Settled.apply (hids : ids.Fresh) (h : ws.Settled ids drawn) {c : Change} (asked : c.Requested)
    (made : ∀ new, ws.idMadeBy c = some new → ids.Spent drawn new) (ho : ws.apply ids drawn c = .ok o) :
    o.workspace.Settled ids o.drawn := by
  cases c with
  | setInfo name description =>
    cases ho
    exact ⟨⟨h.integrity.elementIds, h.integrity.relationshipIds, h.integrity.viewIds, h.integrity.parents,
      h.integrity.acyclic, h.integrity.ends⟩, h.elements, h.relationships, h.views⟩
  | addElement given draft =>
    cases (show given = none from asked)
    exact h.addElement hids ho
  | updateElement id u => exact h.updateElement asked ho
  | renameElement id newName => exact h.renameElement made ho
  | deleteElement id => exact h.deleteElement ho
  | addRelationship given draft =>
    cases (show given = none from asked)
    exact h.addRelationship hids ho
  | updateRelationship id u => exact h.updateRelationship asked ho
  | deleteRelationship id => exact h.deleteRelationship ho
  | addView given draft => exact h.changeViews hids rfl asked made ho
  | updateView id u => exact h.changeViews hids rfl asked made ho
  | renameView id newName => exact h.changeViews hids rfl asked made ho
  | deleteView id => exact h.changeViews hids rfl asked made ho

end Workspace

end Blueprint
