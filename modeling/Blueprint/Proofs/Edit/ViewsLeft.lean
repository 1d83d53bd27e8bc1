/-
  Blueprint.Proofs.Edit.ViewsLeft — when a workspace runs out of views (`delete_element` and `delete_view` among
  the other operations).

  A new workspace has its root view, and a view that is deleted is never the last one. But a deleted element
  takes the views along that are about it, and nothing asks whether these are all: a system's container view
  may be the only view that was left. Ids of views are all different along every run, whatever the views are
  renamed to, so that this is the only way to lose the last view.

  Proved: a workspace has views all along a run just if no element is deleted in it that takes all of them
  (`keepsSomeView_iff`); a system whose view is the last one takes it (`not_keepsSomeView_lastOfSystem`).
-/

import Blueprint.Proofs.Edit.ViewIds
import Blueprint.Proofs.Identifier.ViewName
import Mathlib.Data.List.Induction

namespace Blueprint

/-- What is done to a workspace: it is changed, or made ready to be edited. -/
inductive Operation where
  | change (c : Change)
  | load
  deriving DecidableEq, Repr

/-- A workspace that is edited, and the count of ids drawn so far. -/
structure Edited where
  workspace : Workspace
  drawn : Nat := 0
  deriving DecidableEq, Repr

def Operation.KeepsViewIds : Operation → Prop
  | .change c => c.KeepsViewIds
  | .load => True

namespace Edited

variable {ids : IdSource} {s : Edited}

/-- A change that is refused leaves everything as it is. -/
def perform (ids : IdSource) (s : Edited) : Operation → Edited
  | .change c =>
    match s.workspace.apply ids s.drawn c with
    | .ok o => ⟨o.workspace, o.drawn⟩
    | .error _ => s
  | .load => { s with workspace := s.workspace.withSomeView }

theorem perform_change (ids : IdSource) (s : Edited) (c : Change) :
    s.perform ids (.change c) = s ∨
      ∃ o, s.workspace.apply ids s.drawn c = .ok o ∧ s.perform ids (.change c) = ⟨o.workspace, o.drawn⟩ := by
  unfold perform
  cases ho : s.workspace.apply ids s.drawn c with
  | error f => simp only [ho]; exact .inl trivial
  | ok o => simp only [ho]; exact .inr ⟨o, rfl, rfl⟩

def after (ids : IdSource) (s : Edited) (ops : List Operation) : Edited := ops.foldl (perform ids) s

theorem after_append (s : Edited) (before later : List Operation) :
    s.after ids (before ++ later) = (s.after ids before).after ids later := List.foldl_append

theorem after_concat (s : Edited) (ops : List Operation) (op : Operation) :
    s.after ids (ops ++ [op]) = (s.after ids ops).perform ids op := after_append s ops [op]

end Edited

/-- The element exists, and every view is about it or something in it. -/
def Workspace.takesAllViews (ws : Workspace) (id : String) : Bool :=
  (ws.element? id).isSome && ws.views.all (Workspace.isAbout (ws.withDescendants id))

/-- The workspace has a view after each of these operations, and before them. -/
def Edited.KeepsSomeView (ids : IdSource) (s : Edited) (ops : List Operation) : Prop :=
  ∀ before later, ops = before ++ later → (s.after ids before).workspace.views ≠ []

namespace Edited

variable {ids : IdSource} {s : Edited}

/-! ## One operation -/

/-- The ids of the views are apart. -/
def ViewsApart (ids : IdSource) (s : Edited) : Prop := ids.Apart s.drawn (s.workspace.views.map (·.id))

theorem ViewsApart.perform (hids : ids.Fresh) (hyphened : ids.Hyphened) (h : s.ViewsApart ids) {op : Operation}
    (keeps : op.KeepsViewIds) : (s.perform ids op).ViewsApart ids := by
  cases op with
  | change c =>
    rcases perform_change ids s c with same | ⟨o, ho, done⟩
    · rwa [same]
    · rw [done]
      exact Workspace.viewsApart_apply hids h keeps (fun _ _ _ _ _ => hyphened.spent_viewIdentity _ _ _) ho
  | load =>
    show ids.Apart s.drawn (s.workspace.withSomeView.views.map (·.id))
    unfold Workspace.withSomeView
    split
    · exact hids.apart_landscape s.drawn
    · exact h

/-- Two views cannot both have the id that is deleted. -/
theorem filter_ne_nil_of_apart {views : List View} (distinct : (views.map (·.id)).Nodup) (some : views ≠ [])
    (notLast : views.length ≠ 1) (id : String) : views.filter (·.id != id) ≠ [] := by
  rcases views with _ | ⟨v, _ | ⟨w, rest⟩⟩
  · exact absurd rfl some
  · exact absurd rfl notLast
  · intro none
    have all := List.filter_eq_nil_iff.1 none
    have first : v.id = id := by simpa using all v (by simp)
    have second : w.id = id := by simpa using all w (by simp)
    simp [first, second] at distinct

/-- An operation that is no deletion of an element leaves some view, and so does one of an element that is not
all that the views are about. -/
theorem views_perform_ne_nil (h : s.ViewsApart ids) (some : s.workspace.views ≠ []) {op : Operation}
    (keeps : op.KeepsViewIds)
    (spares : ∀ id, op = .change (.deleteElement id) → s.workspace.takesAllViews id = false) :
    (s.perform ids op).workspace.views ≠ [] := by
  cases op with
  | change c =>
    rcases perform_change ids s c with same | ⟨o, ho, done⟩
    · rwa [same]
    · rw [done]
      show o.workspace.views ≠ []
      intro none
      cases Workspace.viewsAfter_apply keeps ho with
      | kept names =>
        rw [none] at names
        exact some (List.map_eq_nil_iff.1 names.symm)
      | joined first count _ _ names =>
        rw [none] at names
        exact some (List.map_eq_nil_iff.1 (List.append_eq_nil_iff.1 names.symm).1)
      | renamed _ _ names =>
        rw [none] at names
        exact some (List.map_eq_nil_iff.1 (List.map_eq_nil_iff.1 names.symm))
      | deleted notLast left => exact filter_ne_nil_of_apart h.distinct some notLast _ (left.symm.trans none)
      | takenAlong found left =>
        rename_i id
        have all := List.filter_eq_nil_iff.1 (left.symm.trans none)
        have takes : s.workspace.takesAllViews id = true := by
          simp only [Workspace.takesAllViews, found, Bool.true_and, List.all_eq_true]
          exact fun v hv => by simpa using all v hv
        rw [spares id rfl] at takes
        cases takes
  | load => exact s.workspace.views_withSomeView_ne_nil

theorem views_perform_of_takesAllViews (ids : IdSource) {id : String} (h : s.workspace.takesAllViews id = true) :
    (s.perform ids (.change (.deleteElement id))).workspace.views = [] := by
  obtain ⟨found, all⟩ := Bool.and_eq_true_iff.1 h
  obtain ⟨e, he⟩ := Option.isSome_iff_exists.1 found
  have done : s.workspace.apply ids s.drawn (.deleteElement id) =
      .ok { workspace := s.workspace.without (s.workspace.withDescendants id), drawn := s.drawn } := by
    simp [Workspace.apply, Workspace.deleteElement, Workspace.requireElement, he, bind, Except.bind, pure, Except.pure]
  simp only [Edited.perform, done, Workspace.without]
  refine List.filter_eq_nil_iff.2 fun v hv => ?_
  simpa using List.all_eq_true.1 all v hv

/-! ## Whole runs -/

theorem viewsApart_after (hids : ids.Fresh) (hyphened : ids.Hyphened) (h : s.ViewsApart ids) {ops : List Operation}
    (keeps : ∀ op ∈ ops, op.KeepsViewIds) : (s.after ids ops).ViewsApart ids := by
  induction ops using List.reverseRecOn with
  | nil => exact h
  | append_singleton ops op ih =>
    rw [after_concat]
    exact (ih fun o ho => keeps o (by simp [ho])).perform hids hyphened (keeps op (by simp))

/-- From a new workspace on there is always some view, unless an element is deleted that takes all of them. -/
theorem keepsSomeView_iff (hids : ids.Fresh) (hyphened : ids.Hyphened) (name description : String)
    {ops : List Operation} (keeps : ∀ op ∈ ops, op.KeepsViewIds) :
    KeepsSomeView ids { workspace := .new name description } ops ↔
      ∀ before id later, ops = before ++ .change (.deleteElement id) :: later →
        (Edited.after ids { workspace := .new name description } before).workspace.takesAllViews id = false := by
  have start : ViewsApart ids { workspace := .new name description } := hids.apart_landscape 0
  constructor
  · rintro kept before id later rfl
    by_contra takes
    have none := views_perform_of_takesAllViews ids (Bool.not_eq_false _ ▸ takes)
    refine kept (before ++ [.change (.deleteElement id)]) later (by simp) ?_
    rw [after_concat, none]
  · intro spared before
    -- the views before the last operation leave some after it
    induction before using List.reverseRecOn with
    | nil => exact fun _ _ => List.cons_ne_nil _ _
    | append_singleton before op ih =>
      intro later split
      have earlier : ops = before ++ op :: later := by simp [split]
      have mem : ∀ o ∈ before, o.KeepsViewIds := fun o ho => keeps o (by simp [earlier, ho])
      rw [after_concat]
      refine views_perform_ne_nil (viewsApart_after hids hyphened start mem) (ih _ earlier)
        (keeps op (by simp [earlier])) fun id e => ?_
      exact spared before id later (e ▸ earlier)

/-- A system is added and its view renamed; then it is deleted again. -/
def comingAndGoing : List Operation :=
  [.change (.addElement none { kind := .softwareSystem, name := "Shop" }),
    .change (.renameView "--" "Inside the shop"), .change (.deleteElement "-")]

theorem keepsSomeView_comingAndGoing :
    (Edited.after (.repeated '-') { workspace := .new "Plan" "" } (comingAndGoing.take 2)).workspace.views.map (·.id) =
        [landscapeId, "InsideTheShop"] ∧
      KeepsSomeView (.repeated '-') { workspace := .new "Plan" "" } comingAndGoing := by
  refine ⟨by decide +kernel, (keepsSomeView_iff (IdSource.fresh_repeated rfl (by decide)) (fun n => ?_) _ _ ?_).2 ?_⟩
  · simp [IdSource.repeated, List.replicate_succ]
  · intro op mem
    simp only [comingAndGoing, List.mem_cons, List.not_mem_nil, or_false] at mem
    rcases mem with rfl | rfl | rfl
    · trivial
    · trivial
    · trivial
  · intro before id later split
    rcases before with _ | ⟨_, _ | ⟨_, _ | ⟨_, before⟩⟩⟩ <;>
      simp only [comingAndGoing, List.nil_append, List.cons_append, List.cons.injEq, reduceCtorEq, false_and,
        and_false, Operation.change.injEq, List.nil_eq_append_iff] at split
    obtain ⟨rfl, rfl, ⟨⟩, _⟩ := split
    decide +kernel

/-- A system is added, the root view deleted, and then the system, whose own view is the last one. -/
def lastOfSystem : List Operation :=
  [.change (.addElement none { kind := .softwareSystem, name := "Shop" }),
    .change (.deleteView landscapeId), .change (.deleteElement "-")]

theorem not_keepsSomeView_lastOfSystem :
    (∀ op ∈ lastOfSystem, op.KeepsViewIds) ∧
      ¬ KeepsSomeView (.repeated '-') { workspace := .new defaultWorkspaceName defaultWorkspaceDescription }
        lastOfSystem := by
  refine ⟨fun op mem => ?_, fun kept => kept lastOfSystem [] (by simp) (by decide +kernel)⟩
  simp only [lastOfSystem, List.mem_cons, List.not_mem_nil, or_false] at mem
  rcases mem with rfl | rfl | rfl
  · trivial
  · trivial
  · trivial

end Edited

end Blueprint
