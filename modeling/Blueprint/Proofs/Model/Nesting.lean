/-
  Blueprint.Proofs.Model.Nesting — elements inside elements.

  `IsInside` is the link from an element to its parent, by their ids. Nesting is acyclic if no chain
  of links comes back to where it began. Within an element is the element itself and whatever a chain of
  links leads from to it.

  Proved: the descendants of an element are exactly the ids from which a chain of links leads to it
  (`mem_descendants`), each of them found once (`nodup_descendants`), and so no element is inside itself just
  if none is among its own descendants (`acyclic_iff`). Nesting stays acyclic if links are taken away or
  renamed apart (`Acyclic.of_map`), and if one link is added whose far end does not lead back to its near end
  (`Acyclic.insert`). It is acyclic where every parent stands in front (`ParentsFirst.acyclic`).
-/

import Blueprint.Model.Descent
import Mathlib.Data.List.Nodup
import Mathlib.Logic.Relation

namespace Blueprint

open Relation

/-- The element `child` names `parent` as its parent. -/
def IsInside (elements : List Element) (child parent : String) : Prop :=
  ∃ e ∈ elements, e.id = child ∧ e.parentId = some parent

/-- No element is inside itself, at any depth. -/
def Acyclic (elements : List Element) : Prop := ∀ id, ¬ TransGen (IsInside elements) id id

/-- Every parent is the id of an element further in front. -/
def ParentsFirst (elements : List Element) : Prop :=
  ∀ before e after, elements = before ++ e :: after → ∀ parent, e.parentId = some parent → parent ∈ before.map (·.id)

/-! ## Chains of links -/

theorem IsInside.mem {elements : List Element} {known : List String} {child parent : String}
    (link : IsInside elements child parent) (parents : ∀ e ∈ elements, ∀ p, e.parentId = some p → p ∈ known) :
    parent ∈ known := by
  obtain ⟨e, he, _, hp⟩ := link
  exact parents e he parent hp

/-- A chain in which one link may be new runs over old links alone, or passes the new one. -/
theorem transGen_insert {r s : String → String → Prop} {a b x y : String}
    (imp : ∀ c p, s c p → r c p ∨ (c = a ∧ p = b)) (h : TransGen s x y) :
    TransGen r x y ∨ (ReflTransGen r x a ∧ ReflTransGen r b y) := by
  induction h with
  | single hs =>
    rcases imp _ _ hs with hr | ⟨rfl, rfl⟩
    · exact .inl (.single hr)
    · exact .inr ⟨.refl, .refl⟩
  | tail _ hs ih =>
    rcases imp _ _ hs with hr | ⟨rfl, rfl⟩
    · rcases ih with old | ⟨toA, fromB⟩
      · exact .inl (old.tail hr)
      · exact .inr ⟨toA, fromB.tail hr⟩
    · rcases ih with old | ⟨toA, _⟩
      · exact .inr ⟨old.to_reflTransGen, .refl⟩
      · exact .inr ⟨toA, .refl⟩

namespace Acyclic

variable {es fs : List Element}

theorem of_map (h : Acyclic es) (f : String → String) (imp : ∀ c p, IsInside fs c p → IsInside es (f c) (f p)) :
    Acyclic fs :=
  fun id cycle => h (f id) (TransGen.lift f imp _ _ cycle)

theorem mono (h : Acyclic es) (imp : ∀ c p, IsInside fs c p → IsInside es c p) : Acyclic fs := h.of_map id imp

theorem parentId_ne (h : Acyclic es) {e : Element} (he : e ∈ es) : e.parentId ≠ some e.id :=
  fun own => h e.id (.single ⟨e, he, rfl, own⟩)

theorem insert {a b : String} (h : Acyclic es) (imp : ∀ c p, IsInside fs c p → IsInside es c p ∨ (c = a ∧ p = b))
    (hb : ¬ ReflTransGen (IsInside es) b a) : Acyclic fs := by
  intro id cycle
  rcases transGen_insert imp cycle with old | ⟨toA, fromB⟩
  · exact h id old
  · exact hb (fromB.trans toA)

end Acyclic

namespace ParentsFirst

variable {es : List Element}

theorem mem_parent (h : ParentsFirst es) {e : Element} (he : e ∈ es) {parent : String}
    (hp : e.parentId = some parent) :
    parent ∈ es.map (·.id) := by
  obtain ⟨before, after, rfl⟩ := List.append_of_mem he
  rw [List.map_append]
  exact List.mem_append_left _ (h before e after rfl parent hp)

theorem iff_take : ParentsFirst es ↔ ∀ i : Fin es.length, ∀ p ∈ es[i].parentId, p ∈ (es.take i).map (·.id) := by
  constructor
  · intro h i p hp
    have split : es = es.take i ++ es[i] :: es.drop (i + 1) := by
      rw [Fin.getElem_fin, ← List.drop_eq_getElem_cons i.2, List.take_append_drop]
    exact h _ _ _ split p hp
  · rintro h before e after rfl p hp
    have here := h ⟨before.length, by simp⟩ p
    simp only [Fin.getElem_fin, List.getElem_append_right (Nat.le_refl _), Nat.sub_self, List.getElem_cons_zero,
      List.take_left] at here
    exact here hp

instance : Decidable (ParentsFirst es) := decidable_of_iff _ iff_take.symm

/-- A link leads to the front. -/
theorem idxOf_lt (h : ParentsFirst es) (ids : (es.map (·.id)).Nodup) {child parent : String}
    (link : IsInside es child parent) : (es.map (·.id)).idxOf parent < (es.map (·.id)).idxOf child := by
  obtain ⟨e, he, rfl, hp⟩ := link
  obtain ⟨before, after, rfl⟩ := List.append_of_mem he
  have front : parent ∈ before.map (·.id) := h before e after rfl parent hp
  have behind : e.id ∉ before.map (·.id) := fun known => by
    rw [List.map_append, List.map_cons] at ids
    exact (List.nodup_append.1 ids).2.2 _ known _ List.mem_cons_self rfl
  rw [List.map_append, List.idxOf_append_of_mem front, List.idxOf_append_of_notMem behind]
  have := List.idxOf_lt_length_of_mem front
  omega

theorem acyclic (h : ParentsFirst es) (ids : (es.map (·.id)).Nodup) : Acyclic es := by
  have front : ∀ c p, TransGen (IsInside es) c p → (es.map (·.id)).idxOf p < (es.map (·.id)).idxOf c := by
    intro c p chain
    induction chain with
    | single link => exact h.idxOf_lt ids link
    | tail _ link ih => exact Nat.lt_trans (h.idxOf_lt ids link) ih
  exact fun id cycle => Nat.lt_irrefl _ (front id id cycle)

end ParentsFirst

/-! ## Descendants -/

section Explore

variable {elements : List Element}

/-- Whatever is inside something found was found, or is still to be followed from the frontier. -/
def Closing (elements : List Element) (root : Option String) (found : List String) (frontier : List (Option String)) :
    Prop :=
  ∀ e ∈ elements, (e.parentId = root ∨ ∃ p ∈ found, e.parentId = some p) → e.id ∈ found ∨ e.parentId ∈ frontier

theorem Closing.step {root parent : Option String} {found : List String} {rest : List (Option String)}
    (h : Closing elements root found (parent :: rest)) :
    Closing elements root (found ++ freshChildren elements found parent)
      ((freshChildren elements found parent).map some ++ rest) := by
  intro e he hp
  by_cases known : e.id ∈ found
  · exact .inl (List.mem_append_left _ known)
  by_cases here : e.parentId = parent
  · exact .inl (List.mem_append_right _ (mem_freshChildren.2 ⟨e, he, here, rfl, known⟩))
  by_cases fresh : ∃ p ∈ freshChildren elements found parent, e.parentId = some p
  · obtain ⟨p, hp, hep⟩ := fresh
    exact .inr (List.mem_append_left _ (List.mem_map.2 ⟨p, hp, hep.symm⟩))
  · have old : e.parentId = root ∨ ∃ p ∈ found, e.parentId = some p := by
      rcases hp with hr | ⟨p, hp, hep⟩
      · exact .inl hr
      · rcases List.mem_append.1 hp with hp | hp
        · exact .inr ⟨p, hp, hep⟩
        · exact absurd ⟨p, hp, hep⟩ fresh
    rcases h e he old with hf | hf
    · exact absurd hf known
    · rcases List.mem_cons.1 hf with hf | hf
      · exact absurd hf here
      · exact .inr (List.mem_append_right _ hf)

theorem closing_explore {root : Option String} {found : List String} {frontier : List (Option String)}
    (h : Closing elements root found frontier) : Closing elements root (explore elements found frontier) [] := by
  fun_induction explore elements found frontier with
  | case1 found => exact h
  | case2 found parent rest fresh ih => exact ih h.step

/-- Only what is linked to the frontier is found. -/
theorem linked_of_mem_explore {root : String} {found : List String} {frontier : List (Option String)} {id : String}
    (hfound : ∀ i ∈ found, TransGen (IsInside elements) i root)
    (hfrontier : ∀ i, some i ∈ frontier → ReflTransGen (IsInside elements) i root) (hnone : none ∉ frontier)
    (h : id ∈ explore elements found frontier) : TransGen (IsInside elements) id root := by
  fun_induction explore elements found frontier with
  | case1 found => exact hfound id h
  | case2 found parent rest fresh ih =>
    have linked : ∀ i ∈ fresh, TransGen (IsInside elements) i root := by
      intro i hi
      obtain ⟨e, he, hp, rfl, _⟩ := mem_freshChildren.1 hi
      cases hpar : parent with
      | none => exact absurd (by simp [hpar]) hnone
      | some p => exact .head' ⟨e, he, rfl, hp.trans hpar⟩ (hfrontier p (by simp [hpar]))
    refine ih ?_ ?_ ?_ h
    · intro i hi
      rcases List.mem_append.1 hi with hi | hi
      · exact hfound i hi
      · exact linked i hi
    · intro i hi
      rcases List.mem_append.1 hi with hi | hi
      · obtain ⟨j, hj, e⟩ := List.mem_map.1 hi
        cases e
        exact (linked i hj).to_reflTransGen
      · exact hfrontier i (List.mem_cons_of_mem _ hi)
    · intro hi
      rcases List.mem_append.1 hi with hi | hi
      · simp at hi
      · exact hnone (List.mem_cons_of_mem _ hi)

end Explore

/-- The descendants of an element are the ids from which links lead to it. -/
theorem mem_descendants {ws : Workspace} {root id : String} :
    id ∈ ws.descendants (some root) ↔ TransGen (IsInside ws.elements) id root := by
  constructor
  · intro h
    refine linked_of_mem_explore (by simp) (fun i hi => ?_) (by simp) h
    simp only [List.mem_singleton, Option.some.injEq] at hi
    exact hi ▸ .refl
  · have closed : Closing ws.elements (some root) (ws.descendants (some root)) [] :=
      closing_explore fun e _ hp => by
        rcases hp with hp | ⟨p, hp, _⟩
        · exact .inr (by simp [hp])
        · cases hp
    have take : ∀ {i p}, IsInside ws.elements i p → p = root ∨ p ∈ ws.descendants (some root) →
        i ∈ ws.descendants (some root) := by
      rintro i p ⟨e, he, rfl, hp⟩ hroot
      have known : e.parentId = some root ∨ ∃ q ∈ ws.descendants (some root), e.parentId = some q :=
        hroot.imp (fun (h : p = root) => hp.trans (congrArg some h)) fun h => ⟨p, h, hp⟩
      exact (closed e he known).resolve_right (by simp)
    intro h
    induction h using TransGen.head_induction_on with
    | single hi => exact take hi (.inl rfl)
    | head hi _ ih => exact take hi (.inr ih)

theorem nodup_eraseDups (ids : List String) : ids.eraseDups.Nodup := by
  match ids with
  | [] => exact .nil
  | id :: rest =>
    rw [List.eraseDups_cons]
    refine List.nodup_cons.2 ⟨fun again => ?_, nodup_eraseDups _⟩
    simp [List.mem_eraseDups] at again
termination_by ids.length
decreasing_by exact Nat.lt_succ_of_le (List.length_filter_le _ _)

theorem nodup_explore {elements : List Element} {found : List String} {frontier : List (Option String)}
    (h : found.Nodup) : (explore elements found frontier).Nodup := by
  fun_induction explore elements found frontier with
  | case1 found => exact h
  | case2 found parent rest fresh ih =>
    refine ih (List.nodup_append.2 ⟨h, nodup_eraseDups _, ?_⟩)
    rintro old known _ new rfl
    obtain ⟨_, _, _, _, unknown⟩ := mem_freshChildren.1 new
    exact unknown known

/-- Each descendant is found once, so that the search follows no id twice. -/
theorem nodup_descendants (ws : Workspace) (root : Option String) : (ws.descendants root).Nodup :=
  nodup_explore .nil

/-- A cycle goes through elements, and comes back to each of them. -/
theorem acyclic_iff {es : List Element} : Acyclic es ↔ ∀ e ∈ es, e.id ∉ explore es [] [some e.id] := by
  have linked : ∀ id, id ∈ explore es [] [some id] ↔ TransGen (IsInside es) id id := fun id =>
    @mem_descendants { name := "", description := "", elements := es } id id
  constructor
  · exact fun h e _ cycle => h e.id ((linked e.id).1 cycle)
  · intro h id cycle
    obtain ⟨_, ⟨e, he, rfl, _⟩, _⟩ := TransGen.head'_iff.1 cycle
    exact h e he ((linked e.id).2 cycle)

instance (es : List Element) : Decidable (Acyclic es) := decidable_of_iff _ acyclic_iff.symm

/-! ## An element and what is inside it -/

namespace Workspace

variable {ws : Workspace} {root id : String}

/-- The id is that of the element, or of something inside it at any depth. -/
def IsWithin (ws : Workspace) (root id : String) : Prop := id = root ∨ TransGen (IsInside ws.elements) id root

theorem isWithin_iff : ws.IsWithin root id ↔ ReflTransGen (IsInside ws.elements) id root := by
  rw [IsWithin, reflTransGen_iff_eq_or_transGen, eq_comm]

theorem IsWithin.child {child : String} (h : ws.IsWithin root id) (link : IsInside ws.elements child id) :
    ws.IsWithin root child := isWithin_iff.2 ((isWithin_iff.1 h).head link)

end Workspace

end Blueprint
