/-
  Blueprint.Proofs.Model.Integrity — models whose references lead somewhere.

  In a model with integrity every id is one element's, one relationship's or one view's; every parent is
  an element, and no element is inside itself; every relationship ends at elements that are no groups.

  Proved: an element with such an id is what its id stands for (`find?_id_of_mem`), whichever of
  several elements with an id would count (`lastElement?_of_mem`).
-/

import Blueprint.Proofs.Model.Nesting
import Mathlib.Data.List.Nodup

namespace Blueprint

/-- A relationship may end here: at an element that is no group. -/
def IsEnd (elements : List Element) (id : String) : Prop := ∃ e ∈ elements, e.id = id ∧ e.kind ≠ .group

namespace Workspace

structure Integrity (ws : Workspace) : Prop where
  elementIds : ws.elementIds.Nodup
  relationshipIds : (ws.relationships.map (·.id)).Nodup
  viewIds : (ws.views.map (·.id)).Nodup
  parents : ∀ e ∈ ws.elements, ∀ parent, e.parentId = some parent → parent ∈ ws.elementIds
  acyclic : Acyclic ws.elements
  ends : ∀ r ∈ ws.relationships, IsEnd ws.elements r.sourceId ∧ IsEnd ws.elements r.targetId

theorem find?_id_of_mem {es : List Element} (h : (es.map (·.id)).Nodup) {e : Element} (he : e ∈ es) :
    es.find? (·.id == e.id) = some e := by
  cases hf : es.find? (·.id == e.id) with
  | none => exact absurd (List.find?_eq_none.1 hf e he) (by simp)
  | some f =>
    have hid : f.id = e.id := by simpa using List.find?_some hf
    rw [List.inj_on_of_nodup_map h (List.mem_of_find?_eq_some hf) he hid]

theorem lastElement?_of_mem {es : List Element} (h : (es.map (·.id)).Nodup) {e : Element} (he : e ∈ es) :
    lastElement? es e.id = some e := by
  apply find?_id_of_mem
  · rw [List.map_reverse]
    exact List.nodup_reverse.2 h
  · exact List.mem_reverse.2 he

theorem mem_elementIds {ws : Workspace} {id : String} : id ∈ ws.elementIds ↔ ∃ e ∈ ws.elements, e.id = id :=
  List.mem_map

/-! ## Elements in other places -/

/-- What of an element has to do with references. -/
def linkOf (e : Element) : String × ElementKind × Option String := (e.id, e.kind, e.parentId)

theorem exists_linkOf_eq {es fs : List Element} (same : fs.map linkOf = es.map linkOf) {f : Element} (hf : f ∈ fs) :
    ∃ e ∈ es, e.id = f.id ∧ e.kind = f.kind ∧ e.parentId = f.parentId := by
  have mem : linkOf f ∈ es.map linkOf := same ▸ List.mem_map_of_mem hf
  obtain ⟨e, he, eq⟩ := List.mem_map.1 mem
  simp only [linkOf, Prod.mk.injEq] at eq
  exact ⟨e, he, eq⟩

/-- Elements with the same links in the same order. -/
theorem Integrity.relocated {ws : Workspace} (h : ws.Integrity) {fs : List Element}
    (same : fs.map linkOf = ws.elements.map linkOf) : Integrity { ws with elements := fs } := by
  have ids : fs.map (·.id) = ws.elements.map (·.id) := by
    have firsts := congrArg (List.map Prod.fst) same
    simpa only [List.map_map, Function.comp_def, linkOf] using firsts
  refine ⟨?_, h.relationshipIds, h.viewIds, ?_, ?_, ?_⟩
  · rw [Workspace.elementIds, ids]
    exact h.elementIds
  · intro f hf parent hp
    obtain ⟨e, he, _, _, eq⟩ := exists_linkOf_eq same hf
    rw [Workspace.elementIds, ids]
    exact h.parents e he parent (eq.trans hp)
  · refine h.acyclic.mono ?_
    rintro c p ⟨f, hf, rfl, hp⟩
    obtain ⟨e, he, hid, _, eq⟩ := exists_linkOf_eq same hf
    exact ⟨e, he, hid, eq.trans hp⟩
  · have keep : ∀ {id}, IsEnd ws.elements id → IsEnd fs id := by
      rintro id ⟨e, he, rfl, hk⟩
      obtain ⟨f, hf, hid, hkind, _⟩ := exists_linkOf_eq same.symm he
      exact ⟨f, hf, hid, hkind ▸ hk⟩
    exact fun r hr => (h.ends r hr).imp keep keep

end Workspace

end Blueprint
