/-
  Blueprint.Proofs.View.Coverage — what covering a workspace adds (`synthesize_views`).

  Covering leaves the views that are there in their order. In front of them it may put the root view,
  and behind them it puts views for some software systems and then for some deployment nodes, with
  the next ids in order.

  Proved: the covered workspace in these terms (`cover_eq`); that it is covered
  (`hasLandscapeView_cover`, `hasContainerView_cover`, `hasDeploymentView_cover`); that covering
  changes nothing where the workspace is covered, and only there (`cover_eq_self`, `isCovered_of_cover`);
  and so that it keeps what is there, adds only what is missing, each view once, and is done after one
  pass (`cover_completes`).
-/

import Blueprint.Proofs.Identifier.Source
import Blueprint.View.Coverage
import Mathlib.Data.List.Induction

namespace Blueprint

namespace Workspace

variable {ids : IdSource} {kind : ElementKind} {has : List View → Element → Bool} {make : Element → String → View}

/-! ## Views for elements of a kind -/

/-- A view for each of the elements, with the next ids in order. -/
def viewsFor (ids : IdSource) (make : Element → String → View) (drawn : Nat) (es : List Element) : List View :=
  List.zipWith make es (ids.following drawn es.length)

theorem viewsFor_cons (ids : IdSource) (make : Element → String → View) (drawn : Nat) (e : Element)
    (es : List Element) :
    viewsFor ids make drawn (e :: es) = make e (ids drawn) :: viewsFor ids make (drawn + 1) es := by
  rw [viewsFor, List.length_cons, IdSource.following_succ, List.zipWith_cons_cons]
  rfl

theorem ids_viewsFor (hmake : ∀ e id, (make e id).id = id) (drawn : Nat) (es : List Element) :
    (viewsFor ids make drawn es).map (·.id) = ids.following drawn es.length := by
  induction es generalizing drawn with
  | nil => rfl
  | cons e es ih => rw [viewsFor_cons, List.map_cons, hmake, ih, List.length_cons, IdSource.following_succ]

theorem mem_viewsFor {drawn : Nat} {es : List Element} {v : View} (h : v ∈ viewsFor ids make drawn es) :
    ∃ e ∈ es, ∃ id, v = make e id := by
  obtain ⟨i, hi, rfl⟩ := List.getElem_of_mem h
  simp only [viewsFor, List.getElem_zipWith]
  exact ⟨_, List.getElem_mem _, _, rfl⟩

theorem exists_mem_viewsFor {drawn : Nat} {es : List Element} {e : Element} (h : e ∈ es) :
    ∃ id, make e id ∈ viewsFor ids make drawn es := by
  induction es generalizing drawn with
  | nil => cases h
  | cons f es ih =>
    rw [viewsFor_cons]
    rcases List.mem_cons.1 h with rfl | h
    · exact ⟨_, List.mem_cons_self⟩
    · obtain ⟨id, hid⟩ := ih h
      exact ⟨id, List.mem_cons_of_mem _ hid⟩

/-- At its turn, behind the views and those for the elements in front of it, every one of the elements
had no view yet. -/
def MissingInTurn (ids : IdSource) (has : List View → Element → Bool) (make : Element → String → View)
    (views : List View) (drawn : Nat) (es : List Element) : Prop :=
  ∀ before e after, es = before ++ e :: after → has (views ++ viewsFor ids make drawn before) e = false

theorem MissingInTurn.cons {views : List View} {drawn : Nat} {es : List Element} {e : Element}
    (first : has views e = false) (later : MissingInTurn ids has make (views ++ [make e (ids drawn)]) (drawn + 1) es) :
    MissingInTurn ids has make views drawn (e :: es) := by
  intro before f after split
  rcases List.cons_eq_append_iff.1 split with ⟨rfl, rest⟩ | ⟨front, rfl, rest⟩
  · cases rest
    simpa [viewsFor] using first
  · have there := later front f after rest
    rwa [viewsFor_cons, List.append_cons]

theorem addViews_eq (ids : IdSource) (kind : ElementKind) (has : List View → Element → Bool)
    (make : Element → String → View) (es : List Element) (views : List View) (drawn : Nat) :
    ∃ added, added.Sublist (es.filter (·.kind == kind)) ∧ MissingInTurn ids has make views drawn added ∧
      addViews ids kind has make es (views, drawn) =
        (views ++ viewsFor ids make drawn added, drawn + added.length) := by
  induction es generalizing views drawn with
  | nil => exact ⟨[], .refl _, fun before e after split => by simp at split, by simp [addViews, viewsFor]⟩
  | cons e es ih =>
    rw [addViews]
    by_cases h : (e.kind == kind && !has views e) = true
    · obtain ⟨hk, free⟩ := Bool.and_eq_true_iff.1 h
      obtain ⟨added, sub, missing, eq⟩ := ih (views ++ [make e (ids drawn)]) (drawn + 1)
      refine ⟨e :: added, ?_, missing.cons (by simpa using free), ?_⟩
      · rw [List.filter_cons_of_pos (by exact hk)]
        exact sub.cons_cons e
      · rw [if_pos h, eq, viewsFor_cons, ← List.append_cons, List.length_cons, Nat.add_assoc, Nat.add_comm 1]
    · obtain ⟨added, sub, missing, eq⟩ := ih views drawn
      rw [if_neg h]
      exact ⟨added, sub.trans (List.Sublist.filter _ (List.sublist_cons_self e es)), missing, eq⟩

theorem has_addViews_of_has (grows : ∀ vs v e, has vs e = true → has (vs ++ [v]) e = true) (es : List Element)
    {views : List View} {drawn : Nat} {e : Element} (h : has views e = true) :
    has (addViews ids kind has make es (views, drawn)).1 e = true := by
  induction es generalizing views drawn with
  | nil => exact h
  | cons f es ih =>
    rw [addViews]
    split
    · exact ih (grows _ _ _ h)
    · exact ih h

theorem has_addViews (grows : ∀ vs v e, has vs e = true → has (vs ++ [v]) e = true)
    (made : ∀ vs e id, has (vs ++ [make e id]) e = true) {es : List Element} {views : List View} {drawn : Nat}
    {e : Element} (he : e ∈ es) (hk : e.kind = kind) :
    has (addViews ids kind has make es (views, drawn)).1 e = true := by
  induction es generalizing views drawn with
  | nil => cases he
  | cons f es ih =>
    rw [addViews]
    rcases List.mem_cons.1 he with rfl | he
    · split
      · exact has_addViews_of_has grows es (made _ _ _)
      · next h =>
        refine has_addViews_of_has grows es ?_
        simpa [hk] using h
    · split <;> exact ih he

theorem addViews_of_has {es : List Element} {views : List View} {drawn : Nat}
    (h : ∀ e ∈ es, e.kind = kind → has views e = true) :
    addViews ids kind has make es (views, drawn) = (views, drawn) := by
  induction es with
  | nil => rfl
  | cons e es ih =>
    obtain ⟨first, later⟩ := List.forall_mem_cons.1 h
    have enough : ¬ (e.kind == kind && !has views e) = true := by
      by_cases hk : e.kind = kind <;> simp [hk, first]
    rw [addViews, if_neg enough]
    exact ih later

/-! ## Covering -/

theorem coverLandscape_eq (ws : Workspace) :
    ∃ root, ws.coverLandscape = { ws with views := root ++ ws.views } ∧
      (root = [] ∧ hasLandscapeView ws.views = true ∨
        ∃ v, root = [v] ∧ v.kind = .systemLandscape ∧ v.softwareSystemId = none ∧ v.containerId = none ∧
          hasLandscapeView ws.views = false ∧ ((∀ w ∈ ws.views, w.id ≠ landscapeId) → v.id = landscapeId)) := by
  unfold coverLandscape
  split
  · next h => exact ⟨[], rfl, .inl ⟨rfl, h⟩⟩
  · next h =>
    refine ⟨[_], rfl, .inr ⟨_, rfl, ?_⟩⟩
    split
    · next hv =>
      refine ⟨rfl, rfl, rfl, by simpa using h, fun none => ?_⟩
      obtain ⟨w, hw⟩ := Option.isSome_iff_exists.1 hv
      exact absurd (by simpa using List.find?_some hw) (none w (List.mem_of_find?_eq_some hw))
    · exact ⟨rfl, rfl, rfl, by simpa using h, fun _ => rfl⟩

/-- What covering adds: a root view or none, views for software systems, and then views for deployment
nodes; each of them only where it was missing. -/
structure Adds (ids : IdSource) (drawn : Nat) (ws : Workspace) (root : List View) (systems nodes : List Element) :
    Prop where
  landscape : root = [] ∧ hasLandscapeView ws.views = true ∨
    ∃ v, root = [v] ∧ v.kind = .systemLandscape ∧ hasLandscapeView ws.views = false
  isSystem : systems.Sublist (ws.elements.filter (·.kind == .softwareSystem))
  containersMissing : MissingInTurn ids hasContainerView containerViewFor (root ++ ws.views) drawn systems
  isNode : nodes.Sublist (ws.elements.filter (·.kind == .deploymentNode))
  deploymentsMissing : MissingInTurn ids hasDeploymentView deploymentViewFor
    (root ++ ws.views ++ viewsFor ids containerViewFor drawn systems) (drawn + systems.length) nodes

theorem cover_eq (ids : IdSource) (drawn : Nat) (ws : Workspace) :
    ∃ root systems nodes, ws.Adds ids drawn root systems nodes ∧
      ws.coverLandscape.views = root ++ ws.views ∧
      ws.cover ids drawn =
        ({ ws with views := root ++ ws.views ++ viewsFor ids containerViewFor drawn systems ++
              viewsFor ids deploymentViewFor (drawn + systems.length) nodes },
          drawn + systems.length + nodes.length) := by
  obtain ⟨root, hroot, hcases⟩ := ws.coverLandscape_eq
  obtain ⟨systems, hs, ms, es⟩ := addViews_eq ids .softwareSystem hasContainerView containerViewFor ws.elements
    (root ++ ws.views) drawn
  obtain ⟨nodes, hn, mn, en⟩ := addViews_eq ids .deploymentNode hasDeploymentView deploymentViewFor ws.elements
    (root ++ ws.views ++ viewsFor ids containerViewFor drawn systems) (drawn + systems.length)
  have front : root = [] ∧ hasLandscapeView ws.views = true ∨
      ∃ v, root = [v] ∧ v.kind = .systemLandscape ∧ hasLandscapeView ws.views = false :=
    hcases.imp_right fun ⟨v, hv, kind, _, _, lacks, _⟩ => ⟨v, hv, kind, lacks⟩
  refine ⟨root, systems, nodes, ⟨front, hs, ms, hn, mn⟩, by rw [hroot], ?_⟩
  simp only [cover, coverContainers, coverDeployments, hroot, es, en]

/-- Nothing but the views is touched, and those that were there stay together. -/
theorem cover_eq_append (ids : IdSource) (drawn : Nat) (ws : Workspace) :
    ∃ front behind, (ws.cover ids drawn).1 = { ws with views := front ++ ws.views ++ behind } := by
  obtain ⟨root, systems, nodes, _, _, eq⟩ := ws.cover_eq ids drawn
  refine ⟨root, viewsFor ids containerViewFor drawn systems ++
    viewsFor ids deploymentViewFor (drawn + systems.length) nodes, ?_⟩
  rw [eq, ← List.append_assoc]

theorem ids_cover (ids : IdSource) (drawn : Nat) (ws : Workspace) :
    ∃ count, (ws.cover ids drawn).1.views.map (·.id) =
        ws.coverLandscape.views.map (·.id) ++ ids.following drawn count ∧
      (ws.cover ids drawn).2 = drawn + count := by
  obtain ⟨root, systems, nodes, _, front, eq⟩ := ws.cover_eq ids drawn
  refine ⟨systems.length + nodes.length, ?_, by rw [eq]; exact Nat.add_assoc ..⟩
  rw [eq, front]
  simp only [List.map_append]
  rw [ids_viewsFor (fun _ _ => rfl), ids_viewsFor (fun _ _ => rfl), List.append_assoc, IdSource.following_append]

/-- A view is from before, is for a software system, or for a deployment node. -/
theorem mem_cover {drawn : Nat} {ws : Workspace} {v : View} (h : v ∈ (ws.cover ids drawn).1.views) :
    v ∈ ws.coverLandscape.views ∨ (∃ e ∈ ws.elements, ∃ id, v = containerViewFor e id) ∨
      ∃ e ∈ ws.elements, ∃ id, v = deploymentViewFor e id := by
  obtain ⟨root, systems, nodes, adds, front, eq⟩ := ws.cover_eq ids drawn
  rw [eq] at h
  rw [front]
  rcases List.mem_append.1 h with h | h
  · rcases List.mem_append.1 h with h | h
    · exact .inl h
    · obtain ⟨e, he, id, rfl⟩ := mem_viewsFor h
      exact .inr (.inl ⟨e, List.mem_of_mem_filter (adds.isSystem.subset he), id, rfl⟩)
  · obtain ⟨e, he, id, rfl⟩ := mem_viewsFor h
    exact .inr (.inr ⟨e, List.mem_of_mem_filter (adds.isNode.subset he), id, rfl⟩)

/-- The views after covering, step by step. -/
theorem cover_views (ids : IdSource) (drawn : Nat) (ws : Workspace) :
    (ws.cover ids drawn).1.views =
      (addViews ids .deploymentNode hasDeploymentView deploymentViewFor ws.elements
        (addViews ids .softwareSystem hasContainerView containerViewFor ws.elements
          (ws.coverLandscape.views, drawn))).1 := by
  obtain ⟨root, hroot, _⟩ := ws.coverLandscape_eq
  have elements : ws.coverLandscape.elements = ws.elements := by rw [hroot]
  simp only [cover, coverContainers, coverDeployments, elements]

theorem hasLandscapeView_cover (ids : IdSource) (drawn : Nat) (ws : Workspace) :
    hasLandscapeView (ws.cover ids drawn).1.views = true := by
  obtain ⟨root, systems, nodes, adds, _, eq⟩ := ws.cover_eq ids drawn
  have first : hasLandscapeView (root ++ ws.views) = true := by
    rcases adds.landscape with ⟨rfl, h⟩ | ⟨v, rfl, hv, _⟩
    · exact h
    · simp [hasLandscapeView, hv]
  rw [eq]
  simp only [hasLandscapeView, List.any_append, Bool.or_eq_true] at first ⊢
  exact .inl (.inl first)

theorem hasDeploymentView_cover {drawn : Nat} {ws : Workspace} {e : Element} (he : e ∈ ws.elements)
    (hk : e.kind = .deploymentNode) : hasDeploymentView (ws.cover ids drawn).1.views e = true := by
  rw [cover_views]
  refine has_addViews (fun vs v e h => ?_) (fun vs e id => ?_) he hk
  · simp only [hasDeploymentView, List.any_append, Bool.or_eq_true] at h ⊢
    exact .inl h
  · simp [hasDeploymentView, deploymentViewFor]

theorem hasContainerView_append {vs ws : List View} {e : Element} (h : hasContainerView vs e = true) :
    hasContainerView (vs ++ ws) e = true := by
  simp only [hasContainerView, List.any_append, Bool.or_eq_true] at h ⊢
  exact .inl h

theorem hasContainerView_cover {drawn : Nat} {ws : Workspace} {e : Element} (he : e ∈ ws.elements)
    (hk : e.kind = .softwareSystem) : hasContainerView (ws.cover ids drawn).1.views e = true := by
  rw [cover_views]
  have first : hasContainerView (addViews ids .softwareSystem hasContainerView containerViewFor ws.elements
      (ws.coverLandscape.views, drawn)).1 e = true := by
    refine has_addViews (fun vs v e h => hasContainerView_append h) (fun vs e id => ?_) he hk
    simp [hasContainerView, containerViewFor]
  obtain ⟨nodes, _, _, eq⟩ := addViews_eq ids .deploymentNode hasDeploymentView deploymentViewFor ws.elements
    (addViews ids .softwareSystem hasContainerView containerViewFor ws.elements (ws.coverLandscape.views, drawn)).1
    (addViews ids .softwareSystem hasContainerView containerViewFor ws.elements (ws.coverLandscape.views, drawn)).2
  rw [eq]
  exact hasContainerView_append first

/-! ## Covered workspaces -/

/-- No view is missing. -/
structure IsCovered (ws : Workspace) : Prop where
  landscape : hasLandscapeView ws.views = true
  containers : ∀ e ∈ ws.elements, e.kind = .softwareSystem → hasContainerView ws.views e = true
  deployments : ∀ e ∈ ws.elements, e.kind = .deploymentNode → hasDeploymentView ws.views e = true

theorem IsCovered.cover_eq_self {ws : Workspace} (h : ws.IsCovered) (ids : IdSource) (drawn : Nat) :
    ws.cover ids drawn = (ws, drawn) := by
  have landscape : ws.coverLandscape = ws := if_pos h.landscape
  rw [cover, landscape, coverContainers, addViews_of_has h.containers]
  simp only [coverDeployments, addViews_of_has h.deployments]

theorem isCovered_of_cover {drawn : Nat} {ws : Workspace} (h : (ws.cover ids drawn).1 = ws) : ws.IsCovered := by
  refine ⟨?_, fun e he hk => ?_, fun e he hk => ?_⟩
  · have covered := hasLandscapeView_cover ids drawn ws
    rwa [h] at covered
  · have covered := @hasContainerView_cover ids drawn ws e he hk
    rwa [h] at covered
  · have covered := @hasDeploymentView_cover ids drawn ws e he hk
    rwa [h] at covered

/-! ## Each view once -/

/-- Keys are distinct if none occurs in front of itself. -/
theorem nodup_of_splits {α β : Type} {key : α → β} {xs : List α}
    (h : ∀ before x after, xs = before ++ x :: after → key x ∉ before.map key) : (xs.map key).Nodup := by
  induction xs using List.reverseRecOn with
  | nil => exact .nil
  | append_singleton xs x ih =>
    rw [List.map_append, List.map_singleton, ← List.concat_eq_append]
    refine (ih fun before y after split => ?_).concat (h xs x [] rfl)
    exact h before y (after ++ [x]) (by rw [split, List.append_assoc, List.cons_append])

/-- Of the elements that get a container view, none was covered before and no two have the same id. -/
theorem MissingInTurn.once {views : List View} {drawn : Nat} {systems : List Element}
    (h : MissingInTurn ids hasContainerView containerViewFor views drawn systems) :
    (systems.map (·.id)).Nodup ∧ ∀ e ∈ systems, hasContainerView views e = false := by
  have uncovered : ∀ before e after, systems = before ++ e :: after →
      hasContainerView views e = false ∧ hasContainerView (viewsFor ids containerViewFor drawn before) e = false := by
    intro before e after split
    have there := h before e after split
    rwa [hasContainerView, List.any_append, Bool.or_eq_false_iff] at there
  constructor
  · refine nodup_of_splits fun before e after split known => ?_
    obtain ⟨f, hf, same⟩ := List.mem_map.1 known
    have made : ∃ id, containerViewFor f id ∈ viewsFor ids containerViewFor drawn before := exists_mem_viewsFor hf
    obtain ⟨id, hid⟩ := made
    exact List.any_eq_false.1 (uncovered before e after split).2 _ hid (by simp [containerViewFor, same])
  · intro e he
    obtain ⟨before, after, split⟩ := List.append_of_mem he
    exact (uncovered before e after split).1

/-- Covering keeps what is there and adds what is missing, each view once; and nothing is missing then. -/
theorem cover_completes (ids : IdSource) (drawn : Nat) (ws : Workspace) :
    (∃ root systems nodes, ws.Adds ids drawn root systems nodes ∧
      (systems.map (·.id)).Nodup ∧ (∀ e ∈ systems, hasContainerView ws.views e = false) ∧
      (ws.cover ids drawn).1 =
        { ws with views := root ++ ws.views ++ viewsFor ids containerViewFor drawn systems ++
            viewsFor ids deploymentViewFor (drawn + systems.length) nodes }) ∧
      (ws.cover ids drawn).1.IsCovered ∧
      ∀ other later, (ws.cover ids drawn).1.cover other later = ((ws.cover ids drawn).1, later) := by
  obtain ⟨root, systems, nodes, adds, _, eq⟩ := ws.cover_eq ids drawn
  obtain ⟨distinct, uncovered⟩ := adds.containersMissing.once
  have covered : (ws.cover ids drawn).1.IsCovered := by
    have same : (ws.cover ids drawn).1.elements = ws.elements := by rw [eq]
    refine ⟨hasLandscapeView_cover ids drawn ws, fun e he hk => ?_, fun e he hk => ?_⟩
    · exact hasContainerView_cover (same ▸ he) hk
    · exact hasDeploymentView_cover (same ▸ he) hk
  refine ⟨⟨root, systems, nodes, adds, distinct, fun e he => ?_, by rw [eq]⟩, covered, covered.cover_eq_self⟩
  have there := uncovered e he
  rw [hasContainerView, List.any_append, Bool.or_eq_false_iff] at there
  exact there.2

end Workspace

end Blueprint
