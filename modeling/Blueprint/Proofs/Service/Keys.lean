/-
  Blueprint.Proofs.Service.Keys — the keys of the views of an open workspace (`update_view` among the other
  routes).

  A view that is added or declared has a key of key characters, and where nothing is left of what was asked
  for it gets another. A view that comes along with an element has the element's id in its key; the ids that
  are drawn consist of key characters, and so do those that a renamed element or view gets. An update alone
  cleans the key that is asked for and takes what is left, even if that is nothing.

  Proved: all along a run the keys of the views are written as they are iff no update in it asks for a key of
  which nothing is left (`keysHold_iff`).
-/

import Blueprint.Proofs.Dsl.Account
import Blueprint.Proofs.Related
import Blueprint.Proofs.Service.Runs
import Blueprint.Proofs.View.Keys

namespace Blueprint

namespace Workspace

/-- Every view has a key that stays as it is, and so will the views that are made for the elements. -/
structure IsKeyed (ws : Workspace) : Prop where
  elements : ∀ id ∈ ws.elementIds, IsKeyText id
  views : ∀ v ∈ ws.views, IsKey v.key

/-- A view that exists is asked to have a key of which nothing is left. -/
def LosesKey (ws : Workspace) : Change → Prop
  | .updateView id u => (ws.view? id).isSome ∧ ∃ key, u.key = some key ∧ sanitizeKeyText key = ""
  | _ => False

variable {ids : IdSource} {drawn : Nat} {ws : Workspace} {o : Outcome}

/-! ## Changes -/

theorem isKey_drillDownViews {e : Element} {v : View} (h : v ∈ (drillDownViews ids drawn e).1) (id : IsKeyText e.id) :
    IsKey v.key := by
  unfold drillDownViews at h
  split at h
  · rw [List.mem_singleton.1 h]
    exact isKey_containerViewKey id
  · rw [List.mem_singleton.1 h]
    exact isKey_componentViewKey id
  · cases h

theorem isKey_rekeyed {old new : String} (made : IsKeyText new) {v : View} (h : IsKey v.key) :
    IsKey (v.rekeyed old new).key := by
  unfold View.rekeyed
  split
  · exact h
  · split
    · exact isKey_deploymentViewKey made
    · exact h

theorem isKey_viewCreation {fields : Json.Fields} {draft : ViewDraft} (read : viewCreation fields = .fits draft) :
    IsKey draft.key := by
  have made : (viewCreation fields).All fun draft => IsKey draft.key := by
    refine Check.all_seq (Check.all_seq (Check.all_seq (Check.all_seq (Check.all_seq (Check.all_map
      (Check.all_of ?_))))))
    intros
    exact isKey_viewKeyFor _
  exact made draft read

/-- Every change keeps the keys, but an update that leaves nothing of one. -/
theorem IsKeyed.apply (plain : ∀ n, IsKeyText (ids n)) (h : ws.IsKeyed) {c : Change} (offered : c.Offered)
    (keeps : ¬ ws.LosesKey c) (ho : ws.apply ids drawn c = .ok o) : o.workspace.IsKeyed := by
  cases applied_of_apply ho with
  | setInfo | addRelationship | updateRelationship | deleteRelationship => exact ⟨h.elements, h.views⟩
  | @addElement given draft e first _ chosen made parent =>
    have id : IsKeyText e.id := by
      cases offered
      exact (Prod.mk.inj chosen).1 ▸ plain drawn
    refine ⟨fun i hi => ?_, fun v hv => ?_⟩
    · rw [elementIds, List.map_append] at hi
      rcases List.mem_append.1 hi with old | new
      · exact h.elements i old
      · exact List.mem_singleton.1 new ▸ id
    · exact (List.mem_append.1 hv).elim (h.views v) fun new => isKey_drillDownViews new id
  | @updateElement id u e _ mem named free =>
    have same : (u.apply e).id = id := named
    exact ⟨fun i hi => h.elements i (elementIds_replaceElement ws same ▸ hi), h.views⟩
  | @renameElement id newName e _ found =>
    have made : IsKeyText (ws.renamedId e newName) := isKeyText_elementIdentity _ _ _
    refine ⟨fun i hi => ?_, fun v hv => ?_⟩
    · rw [elementIds_rekeyed] at hi
      obtain ⟨j, hj, rfl⟩ := List.mem_map.1 hi
      unfold rekey
      split
      · exact made
      · exact h.elements j hj
    · obtain ⟨w, hw, rfl⟩ := List.mem_map.1 hv
      exact isKey_rekeyed made (h.views w hw)
  | deleteElement found =>
    refine ⟨fun i hi => ?_, fun v hv => h.views v (List.mem_of_mem_filter hv)⟩
    obtain ⟨e, he, rfl⟩ := List.mem_map.1 hi
    exact h.elements _ (List.mem_map_of_mem (List.mem_of_mem_filter he))
  | @addView _ draft v _ _ chosen made system container =>
    have key : IsKey v.key := by
      rw [made]
      cases offered with
      | addView read => exact isKey_viewCreation read
    exact ⟨h.elements, fun w hw => (List.mem_append.1 hw).elim (h.views w) fun new => List.mem_singleton.1 new ▸ key⟩
  | @updateView id u v _ found =>
    have key : IsKey (u.apply v).key := by
      have old := h.views v (List.mem_of_find?_eq_some found)
      unfold ViewUpdate.apply
      cases hk : u.key with
      | none => exact old
      | some asked =>
        exact (isKeyText_sanitizeKeyText asked).isKey fun nothing =>
          keeps ⟨by rw [found]; rfl, asked, hk, nothing⟩
    refine ⟨h.elements, fun w hw => ?_⟩
    obtain ⟨x, hx, rfl⟩ := List.mem_map.1 hw
    split
    · exact key
    · exact h.views x hx
  | renameRoot found =>
    refine ⟨h.elements, fun w hw => ?_⟩
    obtain ⟨x, hx, rfl⟩ := List.mem_map.1 hw
    split <;> exact h.views x hx
  | @renameView id newName new _ _ other found made =>
    refine ⟨h.elements, fun w hw => ?_⟩
    obtain ⟨x, hx, rfl⟩ := List.mem_map.1 hw
    split
    · exact made ▸ isKey_viewIdentity _ _
    · exact h.views x hx
  | deleteView notLast => exact ⟨h.elements, fun v hv => h.views v (List.mem_of_mem_filter hv)⟩

/-- The update goes through all the same, and the view has no key then. -/
theorem LosesKey.apply {c : Change} (loses : ws.LosesKey c) (ids : IdSource) (drawn : Nat) :
    ∃ o, ws.apply ids drawn c = .ok o ∧ ∃ v ∈ o.workspace.views, v.key = "" := by
  cases c with
  | updateView id u =>
    obtain ⟨isThere, key, asked, nothing⟩ := loses
    obtain ⟨v, found⟩ := Option.isSome_iff_exists.1 isThere
    obtain ⟨o, ho, _, mem⟩ := exists_updateView found u ids drawn
    exact ⟨o, ho, u.apply v, mem, by simp [ViewUpdate.apply, asked, nothing]⟩
  | _ => exact loses.elim

end Workspace

/-! ## Documents -/

namespace Dsl

variable {ids : IdSource}

theorem isKey_view? {t : Told} {q : PendingView} (h : t.view? ids = some q) : IsKey q.view.key := by
  unfold Told.view? at h
  split at h
  · cases h
    dsimp only
    split
    · exact isKey_numbered _ _
    · next some => exact (isKeyText_sanitizeKeyText _).isKey some
  · cases h

/-- Whatever is referred to has an id that was drawn. -/
theorem isKeyText_of_standsFor (plain : ∀ n, IsKeyText (ids n)) {ts : List Told} {reference id : String}
    (h : standsFor ids ts reference = some id) : IsKeyText id := by
  obtain ⟨t, _, rfl⟩ := Option.map_eq_some_iff.1 h
  exact plain _

theorem isKey_of_becomes (plain : ∀ n, IsKeyText (ids n)) {ts : List Told} {q : PendingView} {v : View}
    (h : q.Becomes (standsFor ids ts) v) (key : IsKey q.view.key) : IsKey v.key := by
  rcases h.key with same | ⟨_, id, anchor, made⟩
  · exact same ▸ key
  · obtain ⟨_, _, stands⟩ := Option.bind_eq_some_iff.1 anchor
    exact made ▸ isKey_deploymentViewKey (isKeyText_of_standsFor plain stands)

theorem id_of_element? {t : Told} {p : PendingElement} (h : t.element? ids = some p) : p.id = t.newId ids := by
  unfold Told.element? at h
  split at h <;> cases h <;> rfl

theorem isKeyed_build (plain : ∀ n, IsKeyText (ids n)) (drawn : Nat) (ss : List Statement) :
    ((Builder.feedAll ids { drawn } ss).build ids).workspace.IsKeyed := by
  have elements := Builder.elements_feedAll ids { drawn } ss
  have views := Builder.views_feedAll ids { drawn } ss
  have resolve := Builder.resolve_feedAll ids drawn ss
  generalize handled ids { drawn } ss = ts at *
  generalize Builder.feedAll ids { drawn } ss = b at *
  simp only [List.map_nil, List.nil_append] at elements views
  have known : ∀ e ∈ b.buildElements, IsKeyText e.id := by
    intro e he
    obtain ⟨i, hi, rfl⟩ := List.mem_mapIdx.1 he
    have declared : b.elements[i] ∈ ts.filterMap (·.element? ids) := elements ▸ List.getElem_mem hi
    obtain ⟨t, _, told⟩ := List.mem_filterMap.1 declared
    show IsKeyText b.elements[i].id
    exact id_of_element? told ▸ plain _
  refine ⟨?_, ?_⟩
  · rw [Workspace.elementIds, Builder.build_elements]
    exact List.forall_mem_map.2 known
  · rw [Builder.build_workspace]
    refine Workspace.isKey_cover known fun v hv => ?_
    obtain ⟨t, _, q, told, becomes⟩ := exists_of_mem_right (becomes_resolveViews resolve b.buildElements ts views).1 hv
    exact isKey_of_becomes plain becomes (isKey_view? told)

end Dsl

/-! ## Runs -/

namespace Workspace

theorem IsKeyed.of_same {ws after : Workspace} (h : ws.IsKeyed) (elements : after.elementIds = ws.elementIds)
    (views : after.views = ws.views) : after.IsKeyed :=
  ⟨elements ▸ h.elements, views ▸ h.views⟩

theorem IsKeyed.withSomeView {ws : Workspace} (h : ws.IsKeyed) : ws.withSomeView.IsKeyed := by
  unfold Workspace.withSomeView
  split
  · exact ⟨h.elements, List.forall_mem_singleton.2 isKey_landscapeId⟩
  · exact h

theorem keptOn_isKeyed {ids : IdSource} (plain : ∀ n, IsKeyText (ids n)) :
    KeptOn ids (.ofChanges fun _ ws c => ¬ ws.LosesKey c) (fun _ => True) fun _ ws => ws.IsKeyed where
  later _ h := h
  new _ _ := ⟨fun _ hi => (nomatch hi), List.forall_mem_singleton.2 isKey_landscapeId⟩
  parsed _ h := Dsl.eq_build_of_parse h ▸ Dsl.isKeyed_build plain _ _
  someView h := h.withSomeView
  nothing := trivial
  remembered _ _ := trivial
  restored {_ ws r} _ h := h.of_same (elementIds_restoredIn r ws) rfl
  arranged {_ ws} _ h := h.of_same (elementIds_arrange ws) rfl
  changed h offered keeps ho := h.apply plain offered keeps ho

/-- Every view has a key, which stays as it is and which is what a document has for it. -/
def KeysHold (ws : Workspace) : Prop :=
  ∀ v ∈ ws.views, v.key ≠ "" ∧ sanitizeKeyText v.key = v.key ∧
    ∀ anchor, Dsl.viewHeader v anchor = v.kind.keyword.toList ++ ' ' :: anchor ++ Text.quote v.key.toList ++
      ' ' :: Text.quote v.description.toList

theorem IsKeyed.keysHold {ws : Workspace} (h : ws.IsKeyed) : ws.KeysHold := fun v hv =>
  ⟨(h.views v hv).some, (h.views v hv).same, (h.views v hv).viewHeader_eq⟩

end Workspace

namespace Desk

/-- The message asks for a key of which nothing is left, for a view that exists. -/
def LosesKey (d : Desk) (m : Message) : Prop :=
  ∃ c ws, m.request = .ok (.edit c) ∧ d.session.workspace = some ws ∧ ws.LosesKey c

theorem keysHold_iff {ids : IdSource} (plain : ∀ n, IsKeyText (ids n)) (bound drawn : Nat) (files : Files)
    (ms : List Message) (noJson : ∀ before m rest, ms = before ++ m :: rest →
      ¬ (Desk.after ids { session := { bound }, files, drawn } before).OpensJson ids m) :
    Always ids { session := { bound }, files, drawn } ms Workspace.KeysHold ↔
      ∀ before m rest, ms = before ++ m :: rest →
        ¬ (Desk.after ids { session := { bound }, files, drawn } before).LosesKey m := by
  constructor
  · intro hold before m rest split ⟨c, ws, asked, opened, loses⟩
    obtain ⟨o, ho, v, hv, nothing⟩ := loses.apply ids (Desk.after ids { session := { bound }, files, drawn } before).drawn
    exact (hold.receive split (receive_edit asked opened ho) v hv).1 nothing
  · intro keeps
    refine (Workspace.keptOn_isKeyed plain).always (fun before m rest split => ?_) (·.keysHold)
    exact ⟨noJson_of_not_opensJson (noJson before m rest split), fun _ _ => trivial, fun _ _ _ => trivial,
      fun c ws asked opened loses => keeps before m rest split ⟨c, ws, asked, opened, loses⟩⟩

theorem isKeyText_strokes (n : Nat) : IsKeyText (IdSource.strokes n) := by
  intro c hc
  rw [IdSource.strokes, String.toList_ofList] at hc
  rw [List.eq_of_mem_replicate hc]
  rfl

/-- The root view of a new workspace gets another key. -/
def landscapeUpdate (key : String) : List Message :=
  [sending .post "/api/workspace/new" [], sending .patch "/api/views/landscape" [("key", .str key)]]

theorem not_opensJson_landscapeUpdate (key : String) (ids : IdSource) (d : Desk) :
    ∀ m ∈ landscapeUpdate key, ¬ d.OpensJson ids m := by
  intro m mem ⟨path, r, asked, _⟩
  simp only [landscapeUpdate, List.mem_cons, List.not_mem_nil, or_false] at mem
  rcases mem with rfl | rfl <;> cases asked

theorem keysHold_landscapeUpdate :
    (Desk.after IdSource.strokes {} (landscapeUpdate "main view!")).session.workspace.map (·.views.map (·.key)) =
        some ["main_view"] ∧
      Always IdSource.strokes {} (landscapeUpdate "main view!") Workspace.KeysHold := by
  refine ⟨by decide +kernel, (keysHold_iff isKeyText_strokes 100 0 {} _ fun before m rest split => ?_).2 ?_⟩
  · exact not_opensJson_landscapeUpdate _ _ _ m (by rw [split]; exact List.mem_append_cons_self)
  · intro before m rest split ⟨c, ws, asked, opened, loses⟩
    rcases before with _ | ⟨_, _ | ⟨_, before⟩⟩ <;>
      simp only [landscapeUpdate, List.nil_append, List.cons_append, List.cons.injEq] at split
    · obtain ⟨rfl, _⟩ := split
      cases asked
    · obtain ⟨rfl, rfl, _⟩ := split
      cases asked
      obtain ⟨_, key, same, nothing⟩ := loses
      cases same
      exact absurd nothing (by decide)
    · simp at split

/-- Nothing is left of three exclamation marks. -/
theorem not_keysHold_landscapeUpdate :
    (∀ before m rest, landscapeUpdate "!!!" = before ++ m :: rest →
        ¬ (Desk.after IdSource.strokes {} before).OpensJson IdSource.strokes m) ∧
      (Desk.after IdSource.strokes {} (landscapeUpdate "!!!")).session.workspace.map (·.views.map (·.key)) = some [""] ∧
      ¬ Always IdSource.strokes {} (landscapeUpdate "!!!") Workspace.KeysHold := by
  have last : (Desk.after IdSource.strokes {} (landscapeUpdate "!!!")).session.workspace.map (·.views.map (·.key)) =
      some [""] := by decide +kernel
  refine ⟨fun before m rest split => ?_, last, fun hold => ?_⟩
  · exact not_opensJson_landscapeUpdate _ _ _ m (by rw [split]; exact List.mem_append_cons_self)
  · obtain ⟨ws, opened, keys⟩ := Option.map_eq_some_iff.1 last
    obtain ⟨v, hv, nothing⟩ := List.mem_map.1 (keys ▸ List.mem_singleton_self "" : "" ∈ ws.views.map (·.key))
    exact (hold (landscapeUpdate "!!!") [] (List.append_nil _).symm ws opened v hv).1 nothing

end Desk

end Blueprint
