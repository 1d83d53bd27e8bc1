/-
  Blueprint.Proofs.Validation.Problems — what can be wrong in a model with integrity.

  A model with integrity has no reference to report. What is left to report as an error is a blank
  name, or something about a view; and if every view that is about an element names one that exists,
  only the kind of that element can be wrong.

  Proved: the errors of such a model are of these two sorts (`error_of_mem_problems`).
-/

import Blueprint.Proofs.Model.Integrity
import Blueprint.Validation.Report

namespace Blueprint

/-- A view of a kind that is about an element names one of these elements. -/
def View.IsAnchored (v : View) (elements : List Element) : Prop :=
  v.kind ∈ [.systemContext, .container, .component] → ∃ e ∈ elements, v.anchorId = some e.id

namespace Workspace

variable {ws : Workspace}

theorem mem_relationshipProblems {elements : List Element} {earlier rs : List Relationship} {p : Problem}
    (h : p ∈ relationshipProblems elements earlier rs) : ∃ r ∈ rs, ∃ before, p ∈ r.problems elements before := by
  induction rs generalizing earlier with
  | nil => cases h
  | cons r rs ih =>
    rcases List.mem_append.1 h with here | there
    · exact ⟨r, List.mem_cons_self, earlier, here⟩
    · obtain ⟨s, hs, before, hp⟩ := ih there
      exact ⟨s, List.mem_cons_of_mem _ hs, before, hp⟩

namespace Integrity

theorem error_of_mem_elementProblems (h : ws.Integrity) {e : Element} (he : e ∈ ws.elements) {p : Problem}
    (hp : p ∈ e.problems ws.elementIds) : isBlankText e.name = true ∧ p = .emptyName e.id := by
  rcases List.mem_append.1 hp with hp | hp
  · split at hp
    · next blank => exact ⟨blank, List.mem_singleton.1 hp⟩
    · cases hp
  · split at hp
    · next parent hparent =>
      have known := h.parents e he parent hparent
      simp [known] at hp
    · cases hp

theorem groupProblems_of_isEnd (h : ws.Integrity) (relationship : String) {id : String} (hend : IsEnd ws.elements id) :
    groupProblems ws.elements relationship id = [] := by
  obtain ⟨e, he, rfl, hk⟩ := hend
  rw [groupProblems, lastElement?_of_mem h.elementIds he]
  exact if_neg hk

theorem mem_elementIds_of_isEnd {id : String} (hend : IsEnd ws.elements id) : id ∈ ws.elements.map (·.id) :=
  let ⟨e, he, hid, _⟩ := hend
  List.mem_map.2 ⟨e, he, hid⟩

/-- Relationships give rise to warnings alone. -/
theorem severity_of_mem_relationshipProblems (h : ws.Integrity) {r : Relationship} (hr : r ∈ ws.relationships)
    {earlier : List Relationship} {p : Problem} (hp : p ∈ r.problems ws.elements earlier) : p.severity = .warning := by
  obtain ⟨source, target⟩ := h.ends r hr
  have ends := And.intro (mem_elementIds_of_isEnd source) (mem_elementIds_of_isEnd target)
  simp only [Relationship.problems, h.groupProblems_of_isEnd r.id source, h.groupProblems_of_isEnd r.id target,
    List.contains_eq_mem, ends.1, ends.2, decide_true, if_true, List.append_nil, List.nil_append] at hp
  rcases List.mem_append.1 hp with hp | hp <;> split at hp
  · rw [List.mem_singleton.1 hp]; rfl
  · cases hp
  · rw [List.mem_singleton.1 hp]; rfl
  · cases hp

theorem fault?_of_isAnchored (h : ws.Integrity) {v : View} (filled : isBlankText v.id = false)
    (anchored : v.IsAnchored ws.elements) {f : Fault} (hf : v.fault? ws.elements = some f) :
    ∃ expected, ∃ e ∈ ws.elements, v.anchorId = some e.id ∧ v.kind.anchorKind = some expected ∧ e.kind ≠ expected ∧
      f = .anchorOfWrongKind v.key expected.label e.kind.label := by
  simp only [View.fault?, filled, Bool.false_eq_true, if_false] at hf
  split at hf
  · next expected id hkind hid =>
    have needs : v.kind ∈ [.systemContext, .container, .component] := by
      revert hkind
      cases v.kind <;> simp [ViewKind.anchorKind]
    obtain ⟨e, he, hanchor⟩ := anchored needs
    rw [hid] at hanchor
    cases hanchor
    rw [lastElement?_of_mem h.elementIds he] at hf
    by_cases hk : e.kind = expected
    · simp [hk] at hf
    · refine ⟨expected, e, he, hid, hkind, hk, ?_⟩
      simpa [hk] using hf.symm
  · cases hf

theorem error_of_mem_problems (h : ws.Integrity) (filled : ∀ v ∈ ws.views, isBlankText v.id = false)
    (anchored : ∀ v ∈ ws.views, v.IsAnchored ws.elements) {p : Problem} (hp : p ∈ ws.problems)
    (error : p.severity = .error) :
    (∃ e ∈ ws.elements, isBlankText e.name = true ∧ p = .emptyName e.id) ∨
      ∃ v ∈ ws.views, ∃ e ∈ ws.elements, ∃ expected, v.anchorId = some e.id ∧ v.kind.anchorKind = some expected ∧
        e.kind ≠ expected ∧ p = .viewFault v.id (.anchorOfWrongKind v.key expected.label e.kind.label) := by
  simp only [problems, List.mem_append, or_assoc] at hp
  rcases hp with hp | hp | hp | hp | hp | hp
  · split at hp
    · rw [List.mem_singleton.1 hp] at error; cases error
    · cases hp
  · obtain ⟨e, he, hp⟩ := List.mem_flatMap.1 hp
    exact .inl ⟨e, he, h.error_of_mem_elementProblems he hp⟩
  · obtain ⟨r, hr, before, hp⟩ := mem_relationshipProblems hp
    rw [h.severity_of_mem_relationshipProblems hr hp] at error
    cases error
  · split at hp
    · cases hp
    · rw [List.mem_singleton.1 hp] at error; cases error
  · obtain ⟨v, hv, hp⟩ := List.mem_flatMap.1 hp
    rw [View.problems] at hp
    split at hp
    · next f hf =>
      obtain ⟨expected, e, he, hid, hkind, hk, rfl⟩ := h.fault?_of_isAnchored (filled v hv) (anchored v hv) hf
      exact .inr ⟨v, hv, e, he, expected, hid, hkind, hk, List.mem_singleton.1 hp⟩
    · cases hp
  · split at hp
    · rw [List.mem_singleton.1 hp] at error; cases error
    · cases hp

end Integrity

end Workspace

end Blueprint
