/-
  Blueprint.Proofs.Validation.Agreement — a workspace is valid just if its report has no errors
  (`validate_workspace` and `collect_issues`).

  Validation stops at the first fault, a report lists every problem, and each has rules of its own. What
  validation asks for beyond the errors of a report is that nothing is nameless, that relationships are
  described, and that none leads from an element to itself. A report looks up the element that an id stands
  for; validation looks through all groups. Where ids do not repeat, these come to the same.

  Proved: item by item, when there are no errors (`Element.noError_problems_iff`,
  `Relationship.noError_problems_iff`, `View.noError_problems_iff`); a workspace is valid just if its report has
  none and the texts and ends that validation asks for besides are there (`fault?_none_iff_problems`).
-/

import Blueprint.Proofs.Validation.Problems

namespace Blueprint

/-- There may be warnings, but no errors. -/
def NoError (problems : List Problem) : Prop := ∀ p ∈ problems, p.severity ≠ .error

instance (problems : List Problem) : Decidable (NoError problems) := inferInstanceAs (Decidable (∀ p ∈ problems, _))

variable {elements : List Element}

/-! ## Lists of problems -/

theorem noError_nil : NoError [] := fun _ hp => nomatch hp

theorem noError_append_iff {ps qs : List Problem} : NoError (ps ++ qs) ↔ NoError ps ∧ NoError qs :=
  List.forall_mem_append

theorem noError_flatMap_iff {α : Type} {f : α → List Problem} {xs : List α} :
    NoError (xs.flatMap f) ↔ ∀ x ∈ xs, NoError (f x) := by
  constructor
  · intro h x hx p hp
    exact h p (List.mem_flatMap.2 ⟨x, hx, hp⟩)
  · intro h p hp
    obtain ⟨x, hx, hp⟩ := List.mem_flatMap.1 hp
    exact h x hx p hp

/-- A problem that is an error is reported just if its condition holds. -/
theorem noError_if_error_iff {c : Prop} [Decidable c] {p : Problem} (error : p.severity = .error) :
    NoError (if c then [p] else []) ↔ ¬ c := by
  split
  · next holds => exact ⟨fun h => absurd error (h p (List.mem_singleton_self p)), fun h => absurd holds h⟩
  · next fails => exact ⟨fun _ => fails, fun _ => noError_nil⟩

/-- A problem that is no error does not matter. -/
theorem noError_if_other {c : Prop} [Decidable c] {p : Problem} (other : p.severity = .warning ∨ p.severity = .info) :
    NoError (if c then [p] else []) := by
  split
  · intro q hq
    rw [List.mem_singleton.1 hq]
    rcases other with warning | info
    · rw [warning]
      decide
    · rw [info]
      decide
  · exact noError_nil

/-! ## Elements -/

/-- A rule goes on where a condition fails. -/
theorem rule_eq_none_iff {c : Prop} [Decidable c] {fault : Fault} {next : Option Fault} :
    (if c then some fault else next) = none ↔ ¬ c ∧ next = none := by
  split
  · next holds => exact iff_of_false nofun fun h => h.1 holds
  · next fails => exact (and_iff_right fails).symm

theorem Element.fault?_eq_none_iff {e : Element} :
    e.fault? = none ↔ isBlankText e.id = false ∧ isBlankText e.name = false := by
  simp only [Element.fault?, rule_eq_none_iff, Bool.not_eq_true, and_true]

theorem Element.noError_problems_iff {e : Element} {known : List String} :
    NoError (e.problems known) ↔ isBlankText e.name = false ∧ e.parentFault? known = none := by
  unfold Element.problems Element.parentFault?
  rw [noError_append_iff, noError_if_error_iff rfl, Bool.not_eq_true]
  refine and_congr_right fun _ => ?_
  cases e.parentId with
  | none => exact iff_of_true noError_nil rfl
  | some parent => simp only [noError_if_error_iff (p := .parentMissing e.id parent) rfl, rule_eq_none_iff, and_true]

/-! ## Relationships -/

theorem Relationship.fault?_eq_none_iff {r : Relationship} {known groups : List String} :
    r.fault? known groups = none ↔
      (isBlankText r.id = false ∧ isBlankText r.description = false ∧ r.sourceId ≠ r.targetId) ∧
        (r.sourceId ∈ known ∧ r.targetId ∈ known) ∧ r.sourceId ∉ groups ∧ r.targetId ∉ groups := by
  have known : ∀ {id : String}, (!known.contains id) ≠ true ↔ id ∈ known := by simp
  have free : ∀ {id : String}, groups.contains id ≠ true ↔ id ∉ groups := by simp
  simp only [Relationship.fault?, rule_eq_none_iff, Bool.not_eq_true, ← ne_eq, known, free, and_true]
  constructor
  · rintro ⟨id, description, source, target, sourceFree, targetFree, apart⟩
    exact ⟨⟨id, description, apart⟩, ⟨source, target⟩, sourceFree, targetFree⟩
  · rintro ⟨⟨id, description, apart⟩, ⟨source, target⟩, sourceFree, targetFree⟩
    exact ⟨id, description, source, target, sourceFree, targetFree, apart⟩

/-- Where no id repeats, the element that an id stands for is the only one that has it. -/
theorem noError_groupProblems_iff (distinct : (elements.map (·.id)).Nodup) {relationship endpoint : String} :
    NoError (groupProblems elements relationship endpoint) ↔
      endpoint ∉ (elements.filter (·.kind == .group)).map (·.id) := by
  unfold groupProblems
  cases found : Workspace.lastElement? elements endpoint with
  | none =>
    refine iff_of_true noError_nil fun known => ?_
    obtain ⟨e, he, rfl⟩ := List.mem_map.1 known
    rw [Workspace.lastElement?_of_mem distinct (List.mem_filter.1 he).1] at found
    cases found
  | some e =>
    have mem : e ∈ elements := List.mem_reverse.1 (List.mem_of_find?_eq_some found)
    have hid : e.id = endpoint := by simpa using List.find?_some found
    simp only [noError_if_error_iff (p := .groupConnected relationship endpoint e.name) rfl]
    refine not_congr ⟨fun group => ?_, fun known => ?_⟩
    · exact List.mem_map.2 ⟨e, List.mem_filter.2 ⟨mem, by simpa using group⟩, hid⟩
    obtain ⟨f, hf, same⟩ := List.mem_map.1 known
    obtain ⟨hf, group⟩ := List.mem_filter.1 hf
    obtain rfl := List.inj_on_of_nodup_map distinct hf mem (same.trans hid.symm)
    simpa using group

/-- What was reported earlier makes no difference to the errors. -/
theorem Relationship.noError_problems_iff (distinct : (elements.map (·.id)).Nodup) {r : Relationship}
    {earlier : List Relationship} :
    NoError (r.problems elements earlier) ↔
      (r.sourceId ∈ elements.map (·.id) ∧ r.targetId ∈ elements.map (·.id)) ∧
        r.sourceId ∉ (elements.filter (·.kind == .group)).map (·.id) ∧
        r.targetId ∉ (elements.filter (·.kind == .group)).map (·.id) := by
  have missing : ∀ {id : String} {p : Problem}, p.severity = .error →
      (NoError (if (elements.map (·.id)).contains id then [] else [p]) ↔ id ∈ elements.map (·.id)) := by
    intro id p error
    by_cases known : id ∈ elements.map (·.id)
    · simp [known, noError_nil]
    · simp [known, NoError, error]
  simp only [Relationship.problems, noError_append_iff, missing (p := .sourceMissing r.id r.sourceId) rfl,
    missing (p := .targetMissing r.id r.targetId) rfl, noError_groupProblems_iff distinct,
    noError_if_other (p := .selfReference r.id r.sourceId) (.inl rfl),
    noError_if_other (p := .duplicate r.id r.sourceId r.targetId) (.inl rfl), and_true, and_assoc]

theorem noError_relationshipProblems_iff (distinct : (elements.map (·.id)).Nodup) {rs earlier : List Relationship} :
    NoError (relationshipProblems elements earlier rs) ↔ ∀ r ∈ rs, NoError (r.problems elements []) := by
  -- What came earlier grows along the list, but only warnings look at it.
  induction rs generalizing earlier with
  | nil => exact iff_of_true noError_nil fun _ hr => nomatch hr
  | cons r rs ih =>
    rw [relationshipProblems, noError_append_iff, ih, List.forall_mem_cons, Relationship.noError_problems_iff distinct,
      Relationship.noError_problems_iff distinct]

/-! ## Views and workspaces -/

theorem View.noError_problems_iff {v : View} : NoError (v.problems elements) ↔ v.fault? elements = none := by
  unfold View.problems
  cases v.fault? elements with
  | none => exact iff_of_true noError_nil rfl
  | some fault => exact iff_of_false (fun h => h _ (List.mem_singleton_self _) rfl) (by simp)

namespace Workspace

variable {ws : Workspace}

theorem noError_problems_iff (distinct : ws.elementIds.Nodup) :
    NoError ws.problems ↔ (∀ e ∈ ws.elements, NoError (e.problems ws.elementIds)) ∧
      (∀ r ∈ ws.relationships, NoError (r.problems ws.elements [])) ∧
      ∀ v ∈ ws.views, NoError (v.problems ws.elements) := by
  have orphans : NoError (if ws.orphans.isEmpty || ws.relationships.isEmpty then [] else [.orphans ws.orphans]) := by
    rw [← ite_not]
    exact noError_if_other (.inl rfl)
  simp only [problems, noError_append_iff, noError_flatMap_iff, noError_relationshipProblems_iff distinct, orphans,
    noError_if_other (p := .noElements) (.inr rfl),
    noError_if_other (p := .severalLandscapes ws.landscapeCount) (.inl rfl), true_and, and_true, and_assoc]

/-- Validation finds no fault just if the texts it asks for are there, no relationship leads from an element to
itself, and the report has no errors. -/
theorem fault?_none_iff_problems (distinct : ws.elementIds.Nodup) :
    ws.fault? = none ↔
      (isBlankText ws.name = false ∧ (∀ e ∈ ws.elements, isBlankText e.id = false) ∧
        (∀ r ∈ ws.relationships, isBlankText r.id = false ∧ isBlankText r.description = false) ∧
        ∀ r ∈ ws.relationships, r.sourceId ≠ r.targetId) ∧
      ∀ p ∈ ws.problems, p.severity ≠ .error := by
  have errors : (∀ p ∈ ws.problems, p.severity ≠ .error) ↔ _ := noError_problems_iff distinct
  rw [fault?_eq_none_iff, errors]
  simp only [Element.fault?_eq_none_iff, Relationship.fault?_eq_none_iff, Element.noError_problems_iff,
    Relationship.noError_problems_iff distinct, View.noError_problems_iff]
  constructor
  · rintro ⟨name, elements, relationships, parents, views⟩
    exact ⟨⟨name, fun e he => (elements e he).1, fun r hr => ⟨(relationships r hr).1.1, (relationships r hr).1.2.1⟩,
      fun r hr => (relationships r hr).1.2.2⟩, fun e he => ⟨(elements e he).2, parents e he⟩,
      fun r hr => (relationships r hr).2, views⟩
  · rintro ⟨⟨name, ids, texts, apart⟩, elements, relationships, views⟩
    exact ⟨name, fun e he => ⟨ids e he, (elements e he).1⟩,
      fun r hr => ⟨⟨(texts r hr).1, (texts r hr).2, apart r hr⟩, relationships r hr⟩,
      fun e he => (elements e he).2, views⟩

/-- A system that uses itself, and another system in a group. -/
def selfService : Workspace :=
  { name := "Kiosk", description := ""
    elements :=
      [{ id := "kiosk", kind := .softwareSystem, name := "Kiosk" }, { id := "site", kind := .group, name := "Site" },
        { id := "till", kind := .softwareSystem, name := "Till", parentId := some "site" }]
    relationships :=
      [{ id := "r1", sourceId := "till", targetId := "kiosk", description := "Reads" },
        { id := "r2", sourceId := "kiosk", targetId := "kiosk", description := "Restarts" }]
    views := [{ id := "v", key := "kiosk", kind := .container, softwareSystemId := some "kiosk" }] }

/-- The report has no errors, and yet validation finds a fault: the one relationship that goes nowhere. -/
theorem fault?_none_iff_problems_selfService :
    selfService.elementIds.Nodup ∧ (∀ p ∈ selfService.problems, p.severity ≠ .error) ∧ selfService.fault? ≠ none ∧
      Workspace.fault? { selfService with relationships := selfService.relationships.take 1 } = none := by
  have distinct : selfService.elementIds.Nodup := by decide
  refine ⟨distinct, by decide, fun valid => ?_, (fault?_none_iff_problems ?_).2 ⟨by decide, by decide⟩⟩
  · obtain ⟨⟨_, _, _, apart⟩, _⟩ := (fault?_none_iff_problems distinct).1 valid
    exact apart _ (List.mem_cons_of_mem _ List.mem_cons_self) rfl
  · exact distinct

/-- Where an id repeats, validation finds a group that the report passes over. -/
example :
    let twins : Workspace :=
      { name := "Twins", description := ""
        elements :=
          [{ id := "ann", kind := .group, name := "Ann" }, { id := "ann", kind := .person, name := "Ann" },
            { id := "bob", kind := .person, name := "Bob" }]
        relationships := [{ id := "r", sourceId := "ann", targetId := "bob", description := "Knows" }] }
    NoError twins.problems ∧ twins.fault? = some (.groupAtEnd "ann" "r") := by decide

end Workspace

end Blueprint
