/-
  Blueprint.Proofs.Edit.RenamedViews — what a renamed view still covers (`rename_view` and then
  `synthesize_views`).

  A view keeps its kind and its anchors when it is renamed, so that it stays a landscape view, or the container
  view of its system. A deployment view has no anchor: it belongs to a node by its key, which is made anew from
  the new name unless it is the root view, or because its name contains the node's name. A made key has no hyphen,
  so it is never the one that is derived from a node.

  Proved: a covered workspace whose view is renamed is covered just if the new name contains the name of every node
  that had no other deployment view, the key of the root view apart (`coversRenamed_iff`); a node whose deployment
  view is renamed to something else gets a second one (`not_coversRenamed_live`).
-/

import Blueprint.Edit.Views
import Blueprint.Proofs.Edit.Applied
import Blueprint.Proofs.Identifier.ViewName
import Blueprint.Proofs.View.Coverage

namespace Blueprint

open Text

namespace Workspace

variable {ids : IdSource} {drawn : Nat} {ws : Workspace} {v : View} {newName : String}

/-- The view under the new name. -/
def viewRenamed (ws : Workspace) (newName : String) (v : View) : View :=
  if v.id = landscapeId then { v with name := newName }
  else { v with id := ws.renamedViewId v.id newName, key := ws.renamedViewId v.id newName, name := newName }

/-- The workspace with the view renamed. -/
def withRenamed (ws : Workspace) (id newName : String) : Workspace :=
  { ws with views := ws.views.map fun x => if x.id = id then ws.viewRenamed newName x else x }

/-- No view is missing once the view is renamed. -/
def CoversRenamed (ws : Workspace) (id newName : String) : Prop :=
  ∃ after, ws.renameView id newName = .ok after ∧ ∀ ids drawn, after.cover ids drawn = (after, drawn)

/-- The node has a deployment view besides the one of this id. -/
def hasOtherDeploymentView (ws : Workspace) (id : String) (node : Element) : Bool :=
  hasDeploymentView (ws.views.filter (·.id != id)) node

/-! ## The renamed view -/

theorem kind_viewRenamed (ws : Workspace) (newName : String) (v : View) :
    (ws.viewRenamed newName v).kind = v.kind := by
  unfold viewRenamed
  split <;> rfl

theorem softwareSystemId_viewRenamed (ws : Workspace) (newName : String) (v : View) :
    (ws.viewRenamed newName v).softwareSystemId = v.softwareSystemId := by
  unfold viewRenamed
  split <;> rfl

theorem name_viewRenamed (ws : Workspace) (newName : String) (v : View) :
    (ws.viewRenamed newName v).name = newName := by
  unfold viewRenamed
  split <;> rfl

/-- A key that is made from a name is not derived from a node. -/
theorem renamedViewId_ne_deploymentViewKey (ws : Workspace) (id newName node : String) :
    ws.renamedViewId id newName ≠ deploymentViewKey node := by
  intro same
  have hyphen : '-' ∈ (deploymentViewKey node).toList := by simp [deploymentViewKey]
  rw [← same] at hyphen
  exact absurd (isIdentifierChar_of_mem_viewIdentity _ _ _ hyphen) (by decide)

theorem key_viewRenamed_iff (ws : Workspace) (newName : String) (v : View) (node : String) :
    (ws.viewRenamed newName v).key = deploymentViewKey node ↔
      v.id = landscapeId ∧ v.key = deploymentViewKey node := by
  unfold viewRenamed
  split
  · next root => exact ⟨fun key => ⟨root, key⟩, fun both => both.2⟩
  · next other =>
    exact ⟨fun key => (renamedViewId_ne_deploymentViewKey _ _ _ _ key).elim, fun both => absurd both.1 other⟩

/-! ## The renamed workspace -/

theorem renameView_eq (known : v ∈ ws.views) (newName : String) :
    ws.renameView v.id newName = .ok (ws.withRenamed v.id newName) := by
  obtain ⟨found, hfound⟩ : ∃ found, ws.view? v.id = some found :=
    Option.isSome_iff_exists.1 (List.find?_isSome.2 ⟨v, known, by simp⟩)
  have required : ws.requireView v.id = .ok found := by rw [requireView, hfound]
  rw [renameView, required]
  refine congrArg (fun views => Except.ok { ws with views }) (List.map_congr_left fun x _ => ?_)
  split
  · next same =>
    show _ = ws.viewRenamed newName x
    rw [viewRenamed, ← same]
  · rfl

/-! ## Views in the place of others -/

/-- A question that the views in the places of others answer in the same way. -/
theorem any_replaced_of_same {p : View → Bool} {g : View → View} (same : ∀ x, p (g x) = p x) (vs : List View)
    (id : String) : (vs.map fun x => if x.id = id then g x else x).any p = vs.any p := by
  rw [List.any_map]
  congr 1
  funext x
  show p (if x.id = id then g x else x) = p x
  split
  · exact same x
  · rfl

/-- Where ids are distinct, a question is answered by the others or by what is in the place of the view. -/
theorem any_replaced {vs : List View} (apart : (vs.map (·.id)).Nodup) (known : v ∈ vs) (g : View → View)
    (p : View → Bool) : (vs.map fun x => if x.id = v.id then g x else x).any p =
      ((vs.filter (·.id != v.id)).any p || p (g v)) := by
  have only : ∀ x ∈ vs, x.id = v.id → x = v := fun x hx same => List.inj_on_of_nodup_map apart hx known same
  rw [Bool.eq_iff_iff, Bool.or_eq_true, List.any_map, List.any_eq_true, List.any_eq_true]
  constructor
  · rintro ⟨x, hx, holds⟩
    simp only [Function.comp_apply] at holds
    split at holds
    · next same =>
      rw [only x hx same] at holds
      exact .inr holds
    · next other => exact .inl ⟨x, List.mem_filter.2 ⟨hx, by simpa using other⟩, holds⟩
  · rintro (⟨x, hx, holds⟩ | holds)
    · obtain ⟨hx, other⟩ := List.mem_filter.1 hx
      refine ⟨x, hx, ?_⟩
      simp only [Function.comp_apply]
      rwa [if_neg (by simpa using other)]
    · refine ⟨v, known, ?_⟩
      show p (if v.id = v.id then g v else v) = true
      rwa [if_pos rfl]

theorem hasDeploymentView_replaced (apart : (ws.views.map (·.id)).Nodup) (known : v ∈ ws.views) (g : View → View)
    (node : Element) :
    hasDeploymentView (ws.views.map fun x => if x.id = v.id then g x else x) node =
      (ws.hasOtherDeploymentView v.id node || hasDeploymentView [g v] node) := by
  rw [hasDeploymentView, any_replaced apart known]
  simp [hasOtherDeploymentView, hasDeploymentView]

/-! ## What is still covered -/

/-- The renamed view belongs to a node by its name, or it is the root view and keeps the key of the node. -/
theorem belongs_viewRenamed_iff (ws : Workspace) (newName : String) (v : View) (node : Element) :
    hasDeploymentView [ws.viewRenamed newName v] node = true ↔
      v.kind = .deployment ∧
        (v.id = landscapeId ∧ v.key = deploymentViewKey node.id ∨ node.name.toList <:+: newName.toList) := by
  simp only [hasDeploymentView, List.any_cons, List.any_nil, Bool.or_false, kind_viewRenamed, Bool.and_eq_true,
    Bool.or_eq_true, beq_iff_eq, name_viewRenamed, isInfix_iff, key_viewRenamed_iff]

theorem coversRenamed_iff_isCovered (known : v ∈ ws.views) (newName : String) :
    ws.CoversRenamed v.id newName ↔ (ws.withRenamed v.id newName).IsCovered := by
  constructor
  · rintro ⟨after, renamed, covered⟩
    cases (renameView_eq known newName).symm.trans renamed
    exact isCovered_of_cover (congrArg Prod.fst (covered IdSource.strokes 0))
  · exact fun covered => ⟨_, renameView_eq known newName, covered.cover_eq_self⟩

/-- Landscape and container views stay what they are. -/
theorem isCovered_withRenamed_iff (covered : ws.IsCovered) (id newName : String) :
    (ws.withRenamed id newName).IsCovered ↔
      ∀ e ∈ ws.elements, e.kind = .deploymentNode →
        hasDeploymentView (ws.withRenamed id newName).views e = true := by
  refine ⟨fun after => after.deployments, fun deployments => ⟨?_, fun e he hk => ?_, deployments⟩⟩
  · refine (any_replaced_of_same (fun x => ?_) ws.views id).trans covered.landscape
    rw [kind_viewRenamed]
  · refine (any_replaced_of_same (fun x => ?_) ws.views id).trans (covered.containers e he hk)
    rw [kind_viewRenamed, softwareSystemId_viewRenamed]

/-- A covered workspace stays covered under a new name of a view just if every node that has no other deployment
view has its name in the new one, or its key at the root view. -/
theorem coversRenamed_iff (apart : (ws.views.map (·.id)).Nodup) (covered : (ws.cover ids drawn).1 = ws)
    (known : v ∈ ws.views) (newName : String) :
    ws.CoversRenamed v.id newName ↔
      ∀ e ∈ ws.elements, e.kind = .deploymentNode → ws.hasOtherDeploymentView v.id e = false →
        v.id = landscapeId ∧ v.key = deploymentViewKey e.id ∨ e.name.toList <:+: newName.toList := by
  have before := isCovered_of_cover covered
  rw [coversRenamed_iff_isCovered known, isCovered_withRenamed_iff before]
  refine forall_congr' fun e => imp_congr_right fun he => imp_congr_right fun node => ?_
  have later : hasDeploymentView (ws.withRenamed v.id newName).views e =
      (ws.hasOtherDeploymentView v.id e || hasDeploymentView [ws.viewRenamed newName v] e) :=
    hasDeploymentView_replaced apart known (ws.viewRenamed newName) e
  have now : hasDeploymentView ws.views e = (ws.hasOtherDeploymentView v.id e || hasDeploymentView [v] e) := by
    have itself := hasDeploymentView_replaced apart known id e
    simpa only [id_eq, ite_self, List.map_id'] using itself
  have has := before.deployments e he node
  rw [now] at has
  rw [later]
  cases other : ws.hasOtherDeploymentView v.id e with
  | true => simp
  | false =>
    -- the view itself is the node's, so that it is a deployment view
    have kind : v.kind = .deployment := by
      rw [other, Bool.false_or] at has
      simp only [hasDeploymentView, List.any_cons, List.any_nil, Bool.or_false, Bool.and_eq_true, beq_iff_eq] at has
      exact has.1
    simp [belongs_viewRenamed_iff, kind]

/-- A node, and a workspace of it with the views that it is given. -/
def liveNode : Element := { id := "live", kind := .deploymentNode, name := "Live" }

def liveView : View := deploymentViewFor liveNode "v1"

def live : Workspace :=
  { name := "W", description := "", elements := [liveNode], relationships := []
    views := [landscapeView "All", liveView] }

theorem coversRenamed_live :
    (live.views.map (·.id)).Nodup ∧ (live.cover IdSource.strokes 0).1 = live ∧ liveView ∈ live.views ∧
      live.CoversRenamed liveView.id "Live in Europe" := by
  have apart : (live.views.map (·.id)).Nodup := by decide +kernel
  have covered : (live.cover IdSource.strokes 0).1 = live := by decide +kernel
  have known : liveView ∈ live.views := by decide +kernel
  exact ⟨apart, covered, known, (coversRenamed_iff apart covered known "Live in Europe").2 (by decide +kernel)⟩

/-- The node loses its view to a name that says nothing of it. -/
theorem not_coversRenamed_live :
    (live.views.map (·.id)).Nodup ∧ (live.cover IdSource.strokes 0).1 = live ∧ liveView ∈ live.views ∧
      ¬ live.CoversRenamed liveView.id "Production" := by
  have known : liveView ∈ live.views := by decide +kernel
  refine ⟨by decide +kernel, by decide +kernel, known, fun still => ?_⟩
  have covered := (coversRenamed_iff_isCovered known "Production").1 still
  have shown := covered.deployments liveNode (by decide +kernel) rfl
  exact absurd shown (by decide +kernel)

end Workspace

end Blueprint
