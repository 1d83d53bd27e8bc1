/-
  Blueprint.Proofs.Model.Forest — the forest has every element that hangs on a top, once.

  With distinct ids every element has one link at most, so what hangs on one sibling does not hang on
  another unless there is a cycle. What was met before is therefore never met again where the forest
  grows, and a level for each id that was not met is enough.

  Proved: a forest has the roots it should have, each with all that is nested in it (`grown_forest`);
  its elements from top to bottom are those that hang on a root (`mem_preorder_iff`), each once
  (`nodup_preorder`). Where nesting is acyclic these are all (`exists_root`, `perm_preorder_forest`).
-/

import Blueprint.Model.Forest
import Blueprint.Proofs.Model.Nesting
import Mathlib.Data.Fintype.Card
import Mathlib.Data.List.Nodup
import Mathlib.Data.Set.Finite.List

namespace Blueprint

open Relation

variable {es : List Element}

/-! ## What hangs on what -/

/-- The id leads to one of these elements. -/
def Under (es roots : List Element) (id : String) : Prop := ∃ r ∈ roots, ReflTransGen (IsInside es) id r.id

theorem under_cons {r : Element} {roots : List Element} {id : String} :
    Under es (r :: roots) id ↔ ReflTransGen (IsInside es) id r.id ∨ Under es roots id := by
  simp [Under]

theorem mem_of_mem_nestedIn {parent : Option String} {e : Element} (h : e ∈ nestedIn es parent) : e ∈ es := by
  cases parent with
  | none => exact (List.mem_filter.1 h).1
  | some p => exact (List.mem_filter.1 h).1

theorem mem_nestedIn_some {p : String} {e : Element} :
    e ∈ nestedIn es (some p) ↔ e ∈ es ∧ e.parentId = some p := by
  simp [nestedIn]

theorem mem_nestedIn_none {e : Element} :
    e ∈ nestedIn es none ↔ e ∈ es ∧ ∀ p, e.parentId = some p → p ∉ es.map (·.id) := by
  rw [nestedIn, List.mem_filter]
  cases e.parentId with
  | none => simp
  | some p => simp

theorem under_nestedIn_iff {p id : String} :
    Under es (nestedIn es (some p)) id ↔ TransGen (IsInside es) id p := by
  constructor
  · rintro ⟨r, hr, chain⟩
    obtain ⟨member, link⟩ := mem_nestedIn_some.1 hr
    exact TransGen.tail' chain ⟨r, member, rfl, link⟩
  · intro chain
    obtain ⟨c, chain, r, member, rfl, link⟩ := TransGen.tail'_iff.1 chain
    exact ⟨r, mem_nestedIn_some.2 ⟨member, link⟩, chain⟩

section Distinct

variable (ids : (es.map (·.id)).Nodup)

include ids

theorem rightUnique_isInside : Relator.RightUnique (IsInside es) := by
  rintro _ p q ⟨x, hx, rfl, hp⟩ ⟨y, hy, same, hq⟩
  rw [List.inj_on_of_nodup_map ids hy hx same] at hq
  exact Option.some.inj (hp.symm.trans hq)

/-- A sibling leads to another one only around a cycle. -/
theorem not_leads_to_sibling {parent : Option String} {x y : Element} (hx : x ∈ nestedIn es parent)
    (hy : y ∈ nestedIn es parent) (ne : x.id ≠ y.id) (free : ¬ TransGen (IsInside es) y.id y.id) :
    ¬ ReflTransGen (IsInside es) x.id y.id := by
  intro chain
  rcases ReflTransGen.cases_head chain with same | ⟨q, ⟨z, hz, hzx, hq⟩, chain⟩
  · exact ne same
  have isX : z = x := List.inj_on_of_nodup_map ids hz (mem_of_mem_nestedIn hx) hzx
  rw [isX] at hq
  cases parent with
  | some p =>
    obtain ⟨_, linkX⟩ := mem_nestedIn_some.1 hx
    obtain ⟨member, linkY⟩ := mem_nestedIn_some.1 hy
    have isP : q = p := Option.some.inj (hq.symm.trans linkX)
    exact free (TransGen.head' ⟨y, member, rfl, linkY⟩ (isP ▸ chain))
  | none =>
    -- the link of a root leads to no element, and so nowhere
    have dangling := (mem_nestedIn_none.1 hx).2 q hq
    rcases ReflTransGen.cases_head chain with rfl | ⟨_, ⟨z, hz, rfl, _⟩, _⟩
    · exact dangling (List.mem_map_of_mem (mem_of_mem_nestedIn hy))
    · exact dangling (List.mem_map_of_mem hz)

theorem siblings_apart {parent : Option String} {x y : Element} (hx : x ∈ nestedIn es parent)
    (hy : y ∈ nestedIn es parent) (ne : x.id ≠ y.id) (freeX : ¬ TransGen (IsInside es) x.id x.id)
    (freeY : ¬ TransGen (IsInside es) y.id y.id) {id : String} (toX : ReflTransGen (IsInside es) id x.id) :
    ¬ ReflTransGen (IsInside es) id y.id := by
  intro toY
  rcases toX.total_of_right_unique (rightUnique_isInside ids) toY with chain | chain
  · exact not_leads_to_sibling ids hx hy ne freeY chain
  · exact not_leads_to_sibling ids hy hx ne.symm freeX chain

end Distinct

/-! ## Growing -/

/-- The trees stand for these roots, in order, each with all that is nested in it. -/
inductive Grown (es : List Element) : List Tree → List Element → Prop
  | nil : Grown es [] []
  | cons {e : Element} {nested trees : List Tree} {roots : List Element} :
      Grown es nested (nestedIn es (some e.id)) → Grown es trees roots →
        Grown es (.node e (!(nestedIn es (some e.id)).isEmpty) nested :: trees) (e :: roots)

theorem Grown.eq_nil {trees : List Tree} (h : Grown es trees []) : trees = [] := by
  cases h
  rfl

/-- Nothing under these roots lies on a cycle or was met before. -/
def IsOpen (es roots : List Element) (met : List String) : Prop :=
  ∀ id, Under es roots id → id ∉ met ∧ ¬ TransGen (IsInside es) id id

theorem IsOpen.head {e : Element} {roots : List Element} {met : List String} (h : IsOpen es (e :: roots) met) :
    e.id ∉ met ∧ ¬ TransGen (IsInside es) e.id e.id := h e.id (under_cons.2 (.inl .refl))

/-- What is nested in the first root is open when the root itself was met. -/
theorem IsOpen.inside {e : Element} {roots : List Element} {met : List String} (h : IsOpen es (e :: roots) met) :
    IsOpen es (nestedIn es (some e.id)) (e.id :: met) := by
  intro id under
  have chain := under_nestedIn_iff.1 under
  obtain ⟨notMet, free⟩ := h id (under_cons.2 (.inl chain.to_reflTransGen))
  refine ⟨fun known => ?_, free⟩
  rcases List.mem_cons.1 known with rfl | known
  · exact free chain
  · exact notMet known

theorem missing_mono {met later : List String} (h : ∀ id ∈ met, id ∈ later) :
    missing es later ≤ missing es met := by
  refine List.countP_mono_left fun e _ he => ?_
  simp only [Bool.not_eq_true', List.contains_eq_mem, decide_eq_false_iff_not] at he ⊢
  exact fun known => he (h e.id known)

theorem missing_cons_lt {met : List String} {e : Element} (he : e ∈ es) (new : e.id ∉ met) :
    missing es (e.id :: met) < missing es met := by
  refine countP_lt_of_imp he (by simpa using new) (by simp) fun x hx => ?_
  simp only [Bool.not_eq_true', List.contains_eq_mem, decide_eq_false_iff_not, List.mem_cons, not_or] at hx ⊢
  exact hx.2

/-- The trees grown for some roots are theirs, and just what is under the roots was met on the way. -/
def GrowsTo (es roots : List Element) (met : List String) (grown : List Tree × List String) : Prop :=
  Grown es grown.1 roots ∧ ∀ id, id ∈ grown.2 ↔ id ∈ met ∨ Under es roots id

theorem growEach_spec (ids : (es.map (·.id)).Nodup) {parent : Option String}
    {inside : List String → String → List Tree × List String} {levels : Nat}
    (grows : ∀ met p, IsOpen es (nestedIn es (some p)) met → missing es met ≤ levels →
      GrowsTo es (nestedIn es (some p)) met (inside met p))
    {roots : List Element} (siblings : ∀ e ∈ roots, e ∈ nestedIn es parent) (distinct : (roots.map (·.id)).Nodup)
    {met : List String} (isOpen : IsOpen es roots met) (enough : missing es met ≤ levels + 1) :
    GrowsTo es roots met (growEach es inside met roots) := by
  induction roots generalizing met with
  | nil => exact ⟨.nil, fun id => by simp [growEach, Under]⟩
  | cons e roots ih =>
    obtain ⟨new, free⟩ := isOpen.head
    have member := siblings e List.mem_cons_self
    have fewer := missing_cons_lt (mem_of_mem_nestedIn member) new
    obtain ⟨grownInside, metInside⟩ := grows (e.id :: met) e.id isOpen.inside (by omega)
    rw [growEach, if_neg (by simpa using new)]
    generalize inside (e.id :: met) e.id = nested at grownInside metInside
    -- so far all was met that leads to `e`
    have metThere : ∀ id, id ∈ nested.2 ↔ id ∈ met ∨ ReflTransGen (IsInside es) id e.id := by
      intro id
      rw [metInside, under_nestedIn_iff, List.mem_cons, reflTransGen_iff_eq_or_transGen, eq_comm (a := e.id)]
      tauto
    have later : GrowsTo es roots nested.2 (growEach es inside nested.2 roots) := by
      rw [List.map_cons, List.nodup_cons] at distinct
      refine ih (fun x hx => siblings x (List.mem_cons_of_mem _ hx)) distinct.2 ?_ ?_
      · intro id under
        obtain ⟨notMet, freeId⟩ := isOpen id (under_cons.2 (.inr under))
        refine ⟨fun known => ?_, freeId⟩
        rcases (metThere id).1 known with old | toE
        · exact notMet old
        · obtain ⟨r, hr, toR⟩ := under
          have ne : e.id ≠ r.id := fun same => distinct.1 (same ▸ List.mem_map_of_mem hr)
          have freeR := (isOpen r.id (under_cons.2 (.inr ⟨r, hr, .refl⟩))).2
          exact siblings_apart ids member (siblings r (List.mem_cons_of_mem _ hr)) ne free freeR toE toR
      · refine Nat.le_trans (missing_mono fun id hid => (metThere id).2 (.inl hid)) enough
    refine ⟨.cons grownInside later.1, fun id => ?_⟩
    rw [later.2, metThere, under_cons, or_assoc]

theorem grow_spec (ids : (es.map (·.id)).Nodup) {levels : Nat} {met : List String} {parent : Option String}
    (isOpen : IsOpen es (nestedIn es parent) met) (enough : missing es met ≤ levels) :
    GrowsTo es (nestedIn es parent) met (grow es levels met parent) := by
  induction levels generalizing met parent with
  | zero =>
    have none : nestedIn es parent = [] := by
      refine List.eq_nil_iff_forall_not_mem.2 fun e he => ?_
      have new := (isOpen e.id ⟨e, he, .refl⟩).1
      have fewer := missing_cons_lt (mem_of_mem_nestedIn he) new
      omega
    rw [none, grow]
    exact ⟨.nil, fun id => by simp [Under]⟩
  | succ levels ih =>
    have distinct : ((nestedIn es parent).map (·.id)).Nodup := by
      cases parent with
      | none => exact ids.sublist (List.filter_sublist.map _)
      | some p => exact ids.sublist (List.filter_sublist.map _)
    exact growEach_spec ids (fun met p => ih) (fun _ h => h) distinct isOpen enough

/-! ## Trees that show what is nested -/

mutual

/-- Nothing is nested where nothing is enclosed. -/
def Tree.IsTight : Tree → Prop
  | .node _ encloses nested => (encloses = false → nested = []) ∧ Tree.AreTight nested

def Tree.AreTight : List Tree → Prop
  | [] => True
  | t :: ts => t.IsTight ∧ Tree.AreTight ts

end

/-- The trees are tight, and there are none where there are no roots. -/
def TightFrom (roots : List Element) (trees : List Tree) : Prop := Tree.AreTight trees ∧ (roots = [] → trees = [])

theorem tight_growEach {inside : List String → String → List Tree × List String}
    (tight : ∀ met p, TightFrom (nestedIn es (some p)) (inside met p).1) (met : List String) (roots : List Element) :
    TightFrom roots (growEach es inside met roots).1 := by
  induction roots generalizing met with
  | nil => exact ⟨trivial, fun _ => rfl⟩
  | cons e roots ih =>
    refine ⟨?_, fun none => by cases none⟩
    rw [growEach]
    split
    · exact (ih met).1
    · refine ⟨⟨fun encloses => (tight _ _).2 (by simpa using encloses), (tight _ _).1⟩, (ih _).1⟩

/-- Whatever the ids and the parents are, the trees of the elements are tight. -/
theorem tight_grow (levels : Nat) (met : List String) (parent : Option String) :
    TightFrom (nestedIn es parent) (grow es levels met parent).1 := by
  induction levels generalizing met parent with
  | zero => exact ⟨trivial, fun _ => rfl⟩
  | succ levels ih => exact tight_growEach (fun met p => ih met (some p)) met (nestedIn es parent)

/-! ## From top to bottom -/

theorem under_of_mem_preorder {trees : List Tree} {roots : List Element} (h : Grown es trees roots)
    (known : ∀ r ∈ roots, r ∈ es) {e : Element} (he : e ∈ Tree.preorderAll trees) :
    e ∈ es ∧ Under es roots e.id := by
  induction h with
  | nil => cases he
  | @cons r nested trees roots _ _ ihNested ih =>
    rw [Tree.preorderAll, Tree.preorder, List.cons_append, List.mem_cons, List.mem_append] at he
    rcases he with rfl | he | he
    · exact ⟨known e List.mem_cons_self, under_cons.2 (.inl .refl)⟩
    · obtain ⟨member, under⟩ := ihNested (fun _ => mem_of_mem_nestedIn) he
      exact ⟨member, under_cons.2 (.inl (under_nestedIn_iff.1 under).to_reflTransGen)⟩
    · obtain ⟨member, under⟩ := ih (fun x hx => known x (List.mem_cons_of_mem _ hx)) he
      exact ⟨member, under_cons.2 (.inr under)⟩

theorem root_mem_preorder {trees : List Tree} {roots : List Element} (h : Grown es trees roots) {r : Element}
    (hr : r ∈ roots) : r ∈ Tree.preorderAll trees := by
  induction h with
  | nil => cases hr
  | cons _ _ _ ih =>
    rw [Tree.preorderAll, Tree.preorder, List.cons_append, List.mem_cons, List.mem_append]
    rcases List.mem_cons.1 hr with rfl | hr
    · exact .inl rfl
    · exact .inr (.inr (ih hr))

theorem child_mem_preorder {trees : List Tree} {roots : List Element} (h : Grown es trees roots) {x y : Element}
    (hx : x ∈ Tree.preorderAll trees) (hy : y ∈ es) (link : y.parentId = some x.id) :
    y ∈ Tree.preorderAll trees := by
  induction h with
  | nil => cases hx
  | cons grownNested _ ihNested ih =>
    rw [Tree.preorderAll, Tree.preorder, List.cons_append, List.mem_cons, List.mem_append] at hx ⊢
    rcases hx with rfl | hx | hx
    · exact .inr (.inl (root_mem_preorder grownNested (mem_nestedIn_some.2 ⟨hy, link⟩)))
    · exact .inr (.inl (ihNested hx))
    · exact .inr (.inr (ih hx))

theorem mem_preorder_iff (ids : (es.map (·.id)).Nodup) {trees : List Tree} {roots : List Element}
    (h : Grown es trees roots) (known : ∀ r ∈ roots, r ∈ es) {e : Element} :
    e ∈ Tree.preorderAll trees ↔ e ∈ es ∧ Under es roots e.id := by
  refine ⟨under_of_mem_preorder h known, ?_⟩
  rintro ⟨member, r, hr, chain⟩
  have all : ∀ id, ReflTransGen (IsInside es) id r.id → ∀ x ∈ es, x.id = id → x ∈ Tree.preorderAll trees := by
    intro id chain
    induction chain using ReflTransGen.head_induction_on with
    | refl =>
      intro x hx same
      rw [List.inj_on_of_nodup_map ids hx (known r hr) same]
      exact root_mem_preorder h hr
    | @head id p link rest ih =>
      intro x hx same
      obtain ⟨y, hy, rfl, hp⟩ := link
      rw [List.inj_on_of_nodup_map ids hx hy same]
      -- the link leads to an element, for the chain goes on from there or ends in the root
      obtain ⟨z, hz, rfl⟩ : ∃ z ∈ es, z.id = p := by
        rcases ReflTransGen.cases_head rest with rfl | ⟨_, ⟨z, hz, hid, _⟩, _⟩
        · exact ⟨r, known r hr, rfl⟩
        · exact ⟨z, hz, hid⟩
      exact child_mem_preorder h (ih z hz rfl) hy hp
  exact all e.id chain e member rfl

theorem nodup_preorder (ids : (es.map (·.id)).Nodup) {trees : List Tree} {roots : List Element}
    (h : Grown es trees roots) {parent : Option String} (siblings : ∀ e ∈ roots, e ∈ nestedIn es parent)
    (distinct : (roots.map (·.id)).Nodup) (free : ∀ id, Under es roots id → ¬ TransGen (IsInside es) id id) :
    ((Tree.preorderAll trees).map (·.id)).Nodup := by
  induction h generalizing parent with
  | nil => exact List.nodup_nil
  | @cons r nested trees roots grownNested grown ihNested ih =>
    have member := siblings r List.mem_cons_self
    have freeR := free r.id (under_cons.2 (.inl .refl))
    rw [List.map_cons, List.nodup_cons] at distinct
    have inner : ((Tree.preorderAll nested).map (·.id)).Nodup := by
      refine ihNested (fun _ h => h) (ids.sublist (List.filter_sublist.map _)) fun id under => ?_
      exact free id (under_cons.2 (.inl (under_nestedIn_iff.1 under).to_reflTransGen))
    have outer : ((Tree.preorderAll trees).map (·.id)).Nodup :=
      ih (fun x hx => siblings x (List.mem_cons_of_mem _ hx)) distinct.2 fun id under =>
        free id (under_cons.2 (.inr under))
    have below : ∀ x ∈ Tree.preorderAll nested, TransGen (IsInside es) x.id r.id := fun x hx =>
      under_nestedIn_iff.1 (under_of_mem_preorder grownNested (fun _ => mem_of_mem_nestedIn) hx).2
    -- what is under a later root does not lead to this one
    have apart : ∀ x ∈ Tree.preorderAll trees, ¬ ReflTransGen (IsInside es) x.id r.id := by
      intro x hx toR
      have known : ∀ s ∈ roots, s ∈ es := fun s hs => mem_of_mem_nestedIn (siblings s (List.mem_cons_of_mem _ hs))
      obtain ⟨s, hs, toS⟩ := (under_of_mem_preorder grown known hx).2
      have ne : r.id ≠ s.id := fun same => distinct.1 (same ▸ List.mem_map_of_mem hs)
      have freeS := free s.id (under_cons.2 (.inr ⟨s, hs, .refl⟩))
      exact siblings_apart ids member (siblings s (List.mem_cons_of_mem _ hs)) ne freeR freeS toR toS
    rw [Tree.preorderAll, Tree.preorder, List.cons_append, List.map_cons, List.map_append, List.nodup_cons,
      List.nodup_append]
    refine ⟨?_, inner, outer, ?_⟩
    · rw [List.mem_append, List.mem_map, List.mem_map]
      rintro (⟨x, hx, same⟩ | ⟨x, hx, same⟩)
      · exact freeR (same ▸ below x hx)
      · exact apart x hx (same ▸ .refl)
    · rintro _ inNested _ inTrees rfl
      obtain ⟨x, hx, rfl⟩ := List.mem_map.1 inNested
      obtain ⟨y, hy, same⟩ := List.mem_map.1 inTrees
      exact apart y hy (same ▸ (below x hx).to_reflTransGen)

/-! ## The forest of a workspace -/

/-- A chain of links that comes to no cycle ends in a root. -/
theorem exists_root_of_free {e : Element} (he : e ∈ es)
    (free : ∀ id, ReflTransGen (IsInside es) e.id id → ¬ TransGen (IsInside es) id id) :
    Under es (nestedIn es none) e.id := by
  -- links go down a well-founded order on the ids that the chain passes, of which there are finitely many
  let Passed := {id // id ∈ es.map (·.id) ∧ ReflTransGen (IsInside es) e.id id}
  let above : Passed → Passed → Prop := fun p c => TransGen (IsInside es) c.1 p.1
  have finite : Finite Passed := ((List.finite_toSet (es.map (·.id))).subset fun _ h => h.1).to_subtype
  have trans : IsTrans _ above := ⟨fun _ _ _ ba cb => cb.trans ba⟩
  have irrefl : Std.Irrefl above := ⟨fun id => free id.1 id.2.2⟩
  have wf : WellFounded above := Finite.wellFounded_of_trans_of_irrefl above
  have all : ∀ id : Passed, Under es (nestedIn es none) id.1 := by
    intro id
    induction id using wf.induction with
    | h id ih =>
      obtain ⟨x, hx, hid⟩ := List.mem_map.1 id.2.1
      by_cases root : x ∈ nestedIn es none
      · exact ⟨x, root, hid ▸ .refl⟩
      · simp only [mem_nestedIn_none, hx, true_and, not_forall, not_not] at root
        obtain ⟨p, link, hp⟩ := root
        have here : IsInside es id.1 p := ⟨x, hx, hid, link⟩
        obtain ⟨r, hr, chain⟩ := ih ⟨p, hp, id.2.2.tail here⟩ (.single here)
        exact ⟨r, hr, .head here chain⟩
  exact all ⟨e.id, List.mem_map_of_mem he, .refl⟩

theorem exists_root (acyclic : Acyclic es) {e : Element} (he : e ∈ es) : Under es (nestedIn es none) e.id :=
  exists_root_of_free he fun id _ => acyclic id

theorem grown_forest {ws : Workspace} (ids : ws.elementIds.Nodup)
    (free : ∀ id, Under ws.elements (nestedIn ws.elements none) id → ¬ TransGen (IsInside ws.elements) id id) :
    Grown ws.elements ws.forest (nestedIn ws.elements none) :=
  (grow_spec ids (fun id under => ⟨List.not_mem_nil, free id under⟩) List.countP_le_length).1

theorem perm_preorder_forest {ws : Workspace} (ids : ws.elementIds.Nodup) (acyclic : Acyclic ws.elements) :
    (Tree.preorderAll ws.forest).Perm ws.elements := by
  have grown := grown_forest ids fun id _ => acyclic id
  have known : ∀ r ∈ nestedIn ws.elements none, r ∈ ws.elements := fun _ => mem_of_mem_nestedIn
  have once := nodup_preorder ids grown (fun _ h => h) (ids.sublist (List.filter_sublist.map _))
    fun id _ => acyclic id
  refine (List.perm_ext_iff_of_nodup once.of_map (List.Nodup.of_map _ ids)).2 fun e => ?_
  rw [mem_preorder_iff ids grown known]
  exact ⟨fun h => h.1, fun he => ⟨he, exists_root acyclic he⟩⟩

end Blueprint
