/-
  Blueprint.Proofs.Dsl.DeploymentViews — the views of a renamed node (`rename_element` and then
  `_deployment_anchor`).

  A deployment view belongs to its node by its key alone, which is made of the node's id. A document writes
  the node's identifier in front of such a key, and a star where no node has the id. A rename gives a view
  either its new anchors or its new key, and never both: a view that is also anchored on the node keeps the
  key of the old id.

  Proved: a view that belongs to a node is written for it (`Workspace.writesFor_of_deploys`), and the views of
  an element follow its rename if and only if none of them is anchored on it as well, or the id stays as it is
  (`Workspace.deploymentsFollow_iff`).
-/

import Blueprint.Proofs.Dsl.ViewRoundTrip
import Blueprint.Proofs.Edit.Renaming

namespace Blueprint

open Dsl

namespace View

/-- It has the key that is made of the id. -/
def IsDeploymentOf (id : String) (v : View) : Prop := v.kind = .deployment ∧ v.key = deploymentViewKey id

def IsAnchoredOn (id : String) (v : View) : Prop := v.softwareSystemId = some id ∨ v.containerId = some id

variable {old new : String} {v : View}

theorem IsAnchoredOn.rekeyed_eq (h : v.IsAnchoredOn old) : v.rekeyed old new = v.mapIds (rekey old new) := if_pos h

/-- The anchors go first: with one of them changed, the key stays. -/
theorem IsDeploymentOf.rekeyed_iff (h : v.IsDeploymentOf old) :
    (v.rekeyed old new).IsDeploymentOf new ↔ (v.IsAnchoredOn old → new = old) := by
  by_cases anchored : v.IsAnchoredOn old
  · rw [anchored.rekeyed_eq]
    constructor
    · exact fun follows _ => (deploymentViewKey_injective (h.2.symm.trans follows.2)).symm
    · exact fun stays => ⟨h.1, (stays anchored).symm ▸ h.2⟩
  · have follows : v.rekeyed old new = { v with key := deploymentViewKey new } := (if_neg anchored).trans (if_pos h)
    rw [follows]
    exact iff_of_true ⟨h.1, rfl⟩ fun anchor => absurd anchor anchored

end View

namespace Workspace

variable {ws : Workspace} {id : String} {e : Element} {v : View}

theorem deploymentAnchor_eq {names : Allocation} (he : e ∈ ws.elements) (deploys : v.Deploys e) :
    deploymentAnchor ws names v = identifierOf names e.id := by
  have isSome : (ws.elements.find? fun e => e.kind == .deploymentNode && v.key == deploymentViewKey e.id).isSome :=
    List.find?_isSome.2 ⟨e, he, by simp [deploys.2.1, deploys.2.2]⟩
  obtain ⟨first, found⟩ := Option.isSome_iff_exists.1 isSome
  -- It may be another one of the same id, which has the same identifier.
  have key : v.key = deploymentViewKey first.id := by
    have both := List.find?_some found
    simp only [Bool.and_eq_true, beq_iff_eq] at both
    exact both.2
  simp only [deploymentAnchor, found, deploymentViewKey_injective (key.symm.trans deploys.2.2)]

/-- The element has an identifier, and the view is written with it in front of its key. Nothing is written where a
position is no number. -/
def WritesFor (ws : Workspace) (id : String) (v : View) : Prop :=
  ∃ name, (Allocation.ofElements ws.elements).get? id = some name ∧
    (HasFinitePositions (shownInViews ws (Allocation.ofElements ws.elements)) →
      ∃ parts contents, viewsOutline ws (Allocation.ofElements ws.elements) = .ok (.block "views".toList parts) ∧
        .block (viewHeader v (name.toList ++ [' '])) contents ∈ parts)

theorem block_mem_sectionParts {names : Allocation} (hv : v ∈ ws.views) {anchor : List Char}
    (h : anchorText? ws names v = some anchor) :
    ∃ contents, .block (viewHeader v anchor) contents ∈ sectionParts ws names := by
  have written : isWritten ws names v = true := by rw [isWritten, h]; rfl
  have block : viewBlock ws names v ∈ viewParts ws names v := by
    rw [viewParts, if_pos written]
    exact List.mem_cons_self
  have mem : viewBlock ws names v ∈ (ws.views.map (viewParts ws names)).flatten :=
    List.mem_flatten_of_mem (List.mem_map_of_mem hv) block
  rw [viewHeader_eq h]
  exact ⟨_, List.mem_append_left _ (List.mem_append_right _ mem)⟩

theorem writesFor_of_deploys (hv : v ∈ ws.views) (he : e ∈ ws.elements) (deploys : v.Deploys e) :
    ws.WritesFor e.id v := by
  obtain ⟨name, named⟩ := Allocation.exists_get?_ofElements he
  have anchor : anchorText? ws (Allocation.ofElements ws.elements) v = some (name.toList ++ [' ']) := by
    simp only [anchorText?, deploys.1, deploymentAnchor_eq he deploys, identifierOf, named, Option.getD_some]
  obtain ⟨contents, block⟩ := block_mem_sectionParts hv anchor
  exact ⟨name, named, fun finite => ⟨_, contents, viewsOutline_eq finite, block⟩⟩

/-! ## Renaming -/

/-- The views with the key of the element's id have that of the new one, and are written for it if it is a node. -/
def DeploymentsFollow (e : Element) (new : String) (ws after : Workspace) : Prop :=
  List.Forall₂ (fun v w => v.IsDeploymentOf e.id →
    w.IsDeploymentOf new ∧ (e.kind = .deploymentNode → after.WritesFor new w)) ws.views after.views

theorem deploymentsFollow_iff (found : ws.element? id = some e) (newName : String) :
    ∃ after, ws.renameElement id newName = .ok after ∧
      (DeploymentsFollow e (ws.renamedId e newName) ws after ↔
        ∀ v ∈ ws.views, v.IsDeploymentOf id → v.IsAnchoredOn id → ws.renamedId e newName = id) := by
  obtain ⟨there, rfl⟩ := element?_eq_some found
  refine ⟨_, renameElement_eq found, ?_⟩
  have he : e.rekeyed e.id (ws.renamedId e newName) newName ∈
      (ws.rekeyed e.id (ws.renamedId e newName) newName).elements := List.mem_map_of_mem there
  have named : (e.rekeyed e.id (ws.renamedId e newName) newName).id = ws.renamedId e newName := by
    rw [id_rekeyed, rekey_self]
  refine (List.forall₂_map_right_iff.trans List.forall₂_same).trans ?_
  refine forall₂_congr fun v hv => imp_congr_right fun deploys => ?_
  rw [← deploys.rekeyed_iff]
  refine ⟨And.left, fun follows => ⟨follows, fun node => ?_⟩⟩
  have belongs : (v.rekeyed e.id (ws.renamedId e newName)).Deploys
      (e.rekeyed e.id (ws.renamedId e newName) newName) :=
    ⟨follows.1, by rw [kind_rekeyed, node], by rw [named]; exact follows.2⟩
  have written := writesFor_of_deploys (List.mem_map_of_mem hv) he belongs
  rwa [named] at written

/-- A node with another one in it, each with its view, and the outer one's is anchored on a system. -/
def pier : Workspace :=
  { name := "Pier", description := ""
    elements := [{ id := "live", kind := .deploymentNode, name := "Live" },
      { id := "rack", kind := .deploymentNode, name := "Rack", parentId := some "live" },
      { id := "shop", kind := .softwareSystem, name := "Shop" }]
    views := [{ id := "a", key := "deploy-live", kind := .deployment, softwareSystemId := some "shop" },
      { id := "b", key := "deploy-rack", kind := .deployment }] }

theorem deploymentsFollow_pier : pier.element? "live" = some pier.elements[0] ∧
    ∃ after, pier.renameElement "live" "Prod" = .ok after ∧
      DeploymentsFollow pier.elements[0] "Prod_DeploymentNode" pier after := by
  have found : pier.element? "live" = some pier.elements[0] := by decide
  have named : pier.renamedId pier.elements[0] "Prod" = "Prod_DeploymentNode" := by decide +kernel
  obtain ⟨after, done, follows⟩ := deploymentsFollow_iff found "Prod"
  rw [named] at follows
  exact ⟨found, after, done, follows.2 (by simp [pier, View.IsAnchoredOn])⟩

/-- A node whose view is anchored on the node as well. -/
def jetty : Workspace :=
  { name := "Jetty", description := ""
    elements := [{ id := "live", kind := .deploymentNode, name := "Live" }]
    views := [{ id := "a", key := "deploy-live", kind := .deployment, softwareSystemId := some "live" }] }

theorem not_deploymentsFollow_jetty :
    ∃ after, jetty.renameElement "live" "Prod" = .ok after ∧
      ¬ DeploymentsFollow jetty.elements[0] "Prod_DeploymentNode" jetty after ∧
      ∃ view ∈ after.views, view.key = "deploy-live" ∧
        deploymentAnchor after (Allocation.ofElements after.elements) view = ['*'] := by
  refine ⟨_, rfl, fun follows => ?_, _, List.mem_cons_self, rfl, by decide +kernel⟩
  obtain ⟨key, _⟩ := (List.forall₂_cons.1 follows).1 ⟨rfl, rfl⟩
  exact absurd key.2 (by decide +kernel)

end Workspace

end Blueprint
