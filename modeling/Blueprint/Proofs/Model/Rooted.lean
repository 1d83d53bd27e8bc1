/-
  Blueprint.Proofs.Model.Rooted — which elements the forest has where parents dangle or go around in a cycle.

  From an element the links lead from parent to parent. They end at an element that has no parent among the
  elements, and then they end in a root; or they come to a cycle and never end. With distinct ids there is one
  way only to follow them, so it is just one of the two.

  The forest is grown by a recursion that carries the ids along that it has met. `Visits` is this recursion
  with nothing that bounds its depth: what it comes to, if it ends.

  Proved: the recursion ends for every workspace, whatever its parents are, and makes the forest
  (`visits_forest`). With distinct ids an element leads out or into a cycle and not both (`leadsOut_iff_not`);
  the forest has those that lead out (`mem_rooted_iff`), each once (`nodup_rooted`).
-/

import Blueprint.Proofs.Model.Forest

namespace Blueprint

open Relation

variable {es : List Element}

/-! ## The recursion -/

/-- Trees are grown for elements in order, and for what is nested in each before the next; ids that were met
are passed over. -/
inductive Visits (es : List Element) : List String → List Element → List Tree → List String → Prop
  | done (met : List String) : Visits es met [] [] met
  | known {met last : List String} {e : Element} {roots : List Element} {trees : List Tree} :
      e.id ∈ met → Visits es met roots trees last → Visits es met (e :: roots) trees last
  | new {met inner last : List String} {e : Element} {roots : List Element} {nested trees : List Tree} :
      e.id ∉ met → Visits es (e.id :: met) (nestedIn es (some e.id)) nested inner → Visits es inner roots trees last →
        Visits es met (e :: roots) (.node e (!(nestedIn es (some e.id)).isEmpty) nested :: trees) last

theorem Visits.subset {met last : List String} {roots : List Element} {trees : List Tree}
    (h : Visits es met roots trees last) : met ⊆ last := by
  induction h with
  | done met => exact List.Subset.refl met
  | known _ _ ih => exact ih
  | new _ _ _ ihNested ih => exact fun id hid => ih (ihNested (List.mem_cons_of_mem _ hid))

theorem visits_growEach {inside : List String → String → List Tree × List String} {levels : Nat}
    (visits : ∀ met p, missing es met ≤ levels → Visits es met (nestedIn es (some p)) (inside met p).1 (inside met p).2)
    {roots : List Element} (members : ∀ e ∈ roots, e ∈ es) {met : List String} (enough : missing es met ≤ levels + 1) :
    Visits es met roots (growEach es inside met roots).1 (growEach es inside met roots).2 := by
  induction roots generalizing met with
  | nil => exact .done met
  | cons e roots ih =>
    have others : ∀ x ∈ roots, x ∈ es := fun x hx => members x (List.mem_cons_of_mem _ hx)
    rw [growEach]
    split
    · next known => exact .known (by simpa using known) (ih others enough)
    · next unknown =>
      have new : e.id ∉ met := by simpa using unknown
      have fewer := missing_cons_lt (members e List.mem_cons_self) new
      have nested := visits (e.id :: met) e.id (by omega)
      have grows : missing es (inside (e.id :: met) e.id).2 ≤ missing es (e.id :: met) := missing_mono nested.subset
      exact .new new nested (ih others (by omega))

theorem visits_grow {levels : Nat} {met : List String} (enough : missing es met ≤ levels) (parent : Option String) :
    Visits es met (nestedIn es parent) (grow es levels met parent).1 (grow es levels met parent).2 := by
  induction levels generalizing met parent with
  | zero =>
    -- with no level left every id was met
    have known : ∀ roots : List Element, (∀ e ∈ roots, e ∈ es) → Visits es met roots [] met := by
      intro roots members
      induction roots with
      | nil => exact .done met
      | cons e roots ih =>
        refine .known ?_ (ih fun x hx => members x (List.mem_cons_of_mem _ hx))
        by_contra new
        have fewer := missing_cons_lt (members e List.mem_cons_self) new
        omega
    exact known _ fun _ => mem_of_mem_nestedIn
  | succ levels ih =>
    exact visits_growEach (fun met p few => ih few (some p)) (fun _ => mem_of_mem_nestedIn) enough

theorem visits_forest (ws : Workspace) : ∃ met, Visits ws.elements [] (nestedIn ws.elements none) ws.forest met :=
  ⟨_, visits_grow List.countP_le_length none⟩

/-! ## Where the links lead -/

/-- The links lead from the id to an element without a parent, or with one that is no element. -/
def LeadsOut (es : List Element) (id : String) : Prop :=
  ∃ r ∈ es, (∀ p, r.parentId = some p → p ∉ es.map (·.id)) ∧ ReflTransGen (IsInside es) id r.id

/-- The id lies on a cycle of links, or they lead from it to one. -/
def LeadsIntoCycle (es : List Element) (id : String) : Prop :=
  ∃ c, ReflTransGen (IsInside es) id c ∧ TransGen (IsInside es) c c

theorem leadsOut_iff {id : String} : LeadsOut es id ↔ Under es (nestedIn es none) id := by
  simp only [LeadsOut, Under, mem_nestedIn_none, and_assoc]

theorem mem_of_transGen {a b : String} (h : TransGen (IsInside es) a b) : a ∈ es.map (·.id) := by
  obtain ⟨_, ⟨e, he, rfl, _⟩, _⟩ := TransGen.head'_iff.1 h
  exact List.mem_map_of_mem he

section Distinct

variable (ids : (es.map (·.id)).Nodup)

include ids

/-- From a root no link leads to an element. -/
theorem not_transGen_root {r : Element} (hr : r ∈ nestedIn es none) {id : String} (hid : id ∈ es.map (·.id)) :
    ¬ TransGen (IsInside es) r.id id := by
  intro chain
  obtain ⟨p, ⟨e, he, same, link⟩, rest⟩ := TransGen.head'_iff.1 chain
  obtain ⟨member, dangling⟩ := mem_nestedIn_none.1 hr
  rw [List.inj_on_of_nodup_map ids he member same] at link
  refine dangling p link ?_
  rcases reflTransGen_iff_eq_or_transGen.1 rest with rfl | chain
  · exact hid
  · exact mem_of_transGen chain

/-- What a cycle leads to leads back to it. -/
theorem leads_back {c id : String} (cycle : TransGen (IsInside es) c c) (chain : ReflTransGen (IsInside es) c id) :
    ReflTransGen (IsInside es) id c := by
  induction chain with
  | refl => exact .refl
  | @tail x y _ link back =>
    have around : TransGen (IsInside es) x c := by
      rcases reflTransGen_iff_eq_or_transGen.1 back with rfl | chain
      · exact cycle
      · exact chain
    obtain ⟨z, first, rest⟩ := TransGen.head'_iff.1 around
    rwa [rightUnique_isInside ids first link] at rest

theorem not_leadsIntoCycle {id : String} (out : LeadsOut es id) : ¬ LeadsIntoCycle es id := by
  rintro ⟨c, toCycle, cycle⟩
  obtain ⟨r, hr, toRoot⟩ := leadsOut_iff.1 out
  have fromRoot : ReflTransGen (IsInside es) r.id c := by
    rcases toRoot.total_of_right_unique (rightUnique_isInside ids) toCycle with chain | chain
    · exact chain
    · exact leads_back ids cycle chain
  exact not_transGen_root ids hr (mem_of_transGen cycle) (TransGen.trans_right fromRoot cycle)

theorem leadsOut_iff_not {e : Element} (he : e ∈ es) : LeadsOut es e.id ↔ ¬ LeadsIntoCycle es e.id :=
  ⟨not_leadsIntoCycle ids, fun free =>
    leadsOut_iff.2 (exists_root_of_free he fun c chain cycle => free ⟨c, chain, cycle⟩)⟩

end Distinct

/-! ## The forest -/

namespace Workspace

variable {ws : Workspace}

/-- The elements of the forest from top to bottom. -/
def rooted (ws : Workspace) : List Element := Tree.preorderAll ws.forest

theorem grown_rooted (ids : ws.elementIds.Nodup) : Grown ws.elements ws.forest (nestedIn ws.elements none) :=
  grown_forest ids fun _ out cycle => not_leadsIntoCycle ids (leadsOut_iff.2 out) ⟨_, .refl, cycle⟩

theorem mem_rooted_iff (ids : ws.elementIds.Nodup) {e : Element} :
    e ∈ ws.rooted ↔ e ∈ ws.elements ∧ LeadsOut ws.elements e.id := by
  rw [leadsOut_iff]
  exact mem_preorder_iff ids (grown_rooted ids) fun _ => mem_of_mem_nestedIn

theorem nodup_rooted (ids : ws.elementIds.Nodup) : ws.rooted.Nodup :=
  (nodup_preorder ids (grown_rooted ids) (fun _ h => h) (ids.sublist (List.filter_sublist.map _))
    fun _ out cycle => not_leadsIntoCycle ids (leadsOut_iff.2 out) ⟨_, .refl, cycle⟩).of_map

end Workspace

end Blueprint
