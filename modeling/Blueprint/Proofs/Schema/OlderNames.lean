/-
  Blueprint.Proofs.Schema.OlderNames — a workspace as JSON, some of its fields by their older names
  (`to_json_dict`, `_rename_legacy_keys` and `from_json_dict`).

  Three fields of an element, of a relationship and of a view had other names before. A field is looked
  for by its present name and, where that is absent, by its older one, so each part of a workspace may be
  written in a mixture of both. No name, present or older, is that of two fields of one part, so none is
  taken for another.

  Proved: with whichever names it is written, a workspace comes back from its JSON, and no id is drawn
  for it (`Workspace.read_spelled`).
-/

import Blueprint.Proofs.Schema.ReadBack

namespace Blueprint

open Check

/-- The present names of some fields, each with its older one. -/
abbrev OlderNames := List (String × String)

namespace OlderNames

def find? (older : OlderNames) (name : String) : Option String := Dictionary.lookup name older

/-- The names by which a field is read. -/
def namesOf (older : OlderNames) (name : String) : List String := name :: (older.find? name).toList

/-- The name by which a field is written, if those that `isOlder` says go by their older ones. -/
def spelled (older : OlderNames) (isOlder : String → Bool) (name : String) : String :=
  if isOlder name then (older.find? name).getD name else name

/-- No two of the fields are read by the same name. -/
def Apart (older : OlderNames) (names : List String) : Prop := (names.flatMap older.namesOf).Nodup

instance (older : OlderNames) (names : List String) : Decidable (older.Apart names) :=
  inferInstanceAs (Decidable (List.Nodup _))

theorem self_mem_namesOf (older : OlderNames) (name : String) : name ∈ older.namesOf name := List.mem_cons_self

theorem spelled_mem_namesOf (older : OlderNames) (isOlder : String → Bool) (name : String) :
    older.spelled isOlder name ∈ older.namesOf name := by
  unfold spelled namesOf
  split
  · cases older.find? name with
    | none => exact List.mem_cons_self
    | some o => exact List.mem_cons_of_mem _ (List.mem_singleton_self _)
  · exact List.mem_cons_self

end OlderNames

/-- The fields with some of them by their older names. -/
def Json.Fields.respelled (older : OlderNames) (isOlder : String → Bool) (fields : Json.Fields) : Json.Fields :=
  fields.map fun f => (older.spelled isOlder f.1, f.2)

def Json.respelled (older : OlderNames) (isOlder : String → Bool) : Json → Json
  | .obj fields => .obj (Json.Fields.respelled older isOlder fields)
  | j => j

theorem Json.respelled_present (older : OlderNames) (j : Json) : j.respelled older (fun _ => false) = j := by
  cases j with
  | obj fields => exact congrArg Json.obj (List.map_id fields)
  | _ => rfl

/-! ## Fields by either name -/

section

variable {older : OlderNames} {isOlder : String → Bool} {fields : Json.Fields} {name : String} {j : Json}

/-- A name by which no field is read finds nothing. -/
theorem get?_respelled_of_not_mem (h : name ∉ (fields.map (·.1)).flatMap older.namesOf) :
    (Json.Fields.respelled older isOlder fields).get? name = none := by
  induction fields with
  | nil => rfl
  | cons f fields ih =>
    obtain ⟨n, v⟩ := f
    rw [List.map_cons, List.flatMap_cons, List.mem_append, not_or] at h
    have other : older.spelled isOlder n ≠ name := fun same => h.1 (same ▸ older.spelled_mem_namesOf isOlder n)
    show (if older.spelled isOlder n = name then some v else _) = none
    rw [if_neg other]
    exact ih h.2

theorem mem_names_of_get? (h : fields.get? name = some j) : name ∈ fields.map (·.1) := by
  induction fields with
  | nil => cases h
  | cons f fields ih =>
    obtain ⟨n, v⟩ := f
    by_cases same : n = name
    · exact same ▸ List.mem_cons_self
    · exact List.mem_cons_of_mem _ (ih (by simpa [Json.Fields.get?, Dictionary.lookup, same] using h))

/-- A field is found again, by whichever of its names it was written. -/
theorem valueOf?_respelled (apart : older.Apart (fields.map (·.1))) (h : fields.get? name = some j) :
    valueOf? (Json.Fields.respelled older isOlder fields) name (older.find? name) = some j := by
  induction fields with
  | nil => cases h
  | cons f fields ih =>
    obtain ⟨n, v⟩ := f
    rw [OlderNames.Apart, List.map_cons, List.flatMap_cons, List.nodup_append] at apart
    obtain ⟨_, later, disjoint⟩ := apart
    have skip : ∀ key, older.spelled isOlder n ≠ key →
        (Json.Fields.respelled older isOlder ((n, v) :: fields)).get? key =
          (Json.Fields.respelled older isOlder fields).get? key := fun key other => if_neg other
    have stop : (Json.Fields.respelled older isOlder ((n, v) :: fields)).get? (older.spelled isOlder n) = some v :=
      if_pos rfl
    unfold valueOf? at ih ⊢
    by_cases here : n = name
    · subst here
      obtain rfl : v = j := by simpa [Json.Fields.get?, Dictionary.lookup] using h
      by_cases present : older.spelled isOlder n = n
      · rw [present] at stop
        rw [stop, Option.some_or]
      · -- The present name is absent then, and no other field has it as an older one.
        have absent : (Json.Fields.respelled older isOlder fields).get? n = none :=
          get?_respelled_of_not_mem fun mem => disjoint n (older.self_mem_namesOf n) n mem rfl
        have renamed : older.find? n = some (older.spelled isOlder n) := by
          unfold OlderNames.spelled at present ⊢
          cases chosen : isOlder n <;> cases o : older.find? n <;> simp_all
        rw [skip n present, absent, renamed, Option.none_or, Option.bind_some, stop]
    · have found : Json.Fields.get? fields name = some j := by simpa [Json.Fields.get?, Dictionary.lookup, here] using h
      have behind : ∀ key ∈ older.namesOf name, older.spelled isOlder n ≠ key := by
        intro key mem
        exact disjoint _ (older.spelled_mem_namesOf isOlder n) key
          (List.mem_flatMap.2 ⟨name, mem_names_of_get? found, mem⟩)
      rw [skip name (behind name (older.self_mem_namesOf name))]
      cases o : older.find? name with
      | none => simpa [o] using ih later found
      | some old =>
        have skipped := skip old (behind old (by simp [OlderNames.namesOf, o]))
        simpa [o, skipped] using ih later found

end

/-! ## The parts -/

def elementOlderNames : OlderNames := [("kind", "type"), ("parent_id", "parentId"), ("is_external", "isExternal")]

def relationshipOlderNames : OlderNames := [("source_id", "sourceId"), ("target_id", "targetId"), ("kind", "type")]

def viewOlderNames : OlderNames :=
  [("kind", "type"), ("software_system_id", "softwareSystemId"), ("container_id", "containerId")]

theorem Element.read_respelled (otherwise : Misfit) (isOlder : String → Bool) (e : Element) :
    ElementDraft.read otherwise (e.toJson.respelled elementOlderNames isOlder) = .fits (some e.id, e.toElementDraft) := by
  have apart : elementOlderNames.Apart ["id", "kind", "name", "description", "technology", "tags", "parent_id",
      "is_external", "position", "size"] := by decide +kernel
  simp only [Element.toJson, Json.respelled, ElementDraft.read, object]
  refine identified_fits (valueOf?_respelled apart rfl) (ElementDraft.ofFields_fits otherwise _ ?_ ?_ ?_ ?_ ?_ ?_ ?_ ?_ ?_)
  all_goals exact valueOf?_respelled apart rfl

theorem Relationship.read_respelled (otherwise : Misfit) (isOlder : String → Bool) (r : Relationship) :
    RelationshipDraft.read otherwise (r.toJson.respelled relationshipOlderNames isOlder) =
      .fits (some r.id, r.toRelationshipDraft) := by
  have apart : relationshipOlderNames.Apart ["id", "source_id", "target_id", "description", "technology", "kind",
      "tags"] := by decide +kernel
  simp only [Relationship.toJson, Json.respelled, RelationshipDraft.read, object]
  refine identified_fits (valueOf?_respelled apart rfl) (RelationshipDraft.ofFields_fits _ ?_ ?_ ?_ ?_ ?_ ?_)
  all_goals exact valueOf?_respelled apart rfl

theorem View.read_respelled (otherwise : Misfit) (isOlder : String → Bool) (v : View) :
    ViewDraft.read otherwise (v.toJson.respelled viewOlderNames isOlder) = .fits (some v.id, v.toViewDraft) := by
  have apart : viewOlderNames.Apart ["id", "key", "kind", "software_system_id", "container_id", "name",
      "description"] := by decide +kernel
  simp only [View.toJson, Json.respelled, ViewDraft.read, object]
  refine identified_fits (valueOf?_respelled apart rfl) (ViewDraft.ofFields_fits _ ?_ ?_ ?_ ?_ ?_ ?_)
  all_goals exact valueOf?_respelled apart rfl

/-! ## The workspace -/

/-- Which fields go by their older names, in each part of a workspace by its place among its like. -/
structure Spelling where
  elements : Nat → String → Bool
  relationships : Nat → String → Bool
  views : Nat → String → Bool

namespace Workspace

/-- The workspace as JSON, with some fields of its parts by their older names. -/
def toJsonSpelled (ws : Workspace) (s : Spelling) : Json :=
  .obj [("name", .str ws.name), ("description", .str ws.description),
    ("elements", .arr (ws.elements.mapIdx fun i e => e.toJson.respelled elementOlderNames (s.elements i))),
    ("relationships",
      .arr (ws.relationships.mapIdx fun i r => r.toJson.respelled relationshipOlderNames (s.relationships i))),
    ("views", .arr (ws.views.mapIdx fun i v => v.toJson.respelled viewOlderNames (s.views i)))]

/-- With all names as they are now it is the usual JSON. -/
theorem toJsonSpelled_present (ws : Workspace) :
    ws.toJsonSpelled ⟨fun _ _ => false, fun _ _ => false, fun _ _ => false⟩ = ws.toJson := by
  simp only [toJsonSpelled, toJson, Json.respelled_present, mapIdx_const]

theorem read_spelled (ids : IdSource) (drawn : Nat) (ws : Workspace) (s : Spelling) :
    read ids drawn (ws.toJsonSpelled s) = .ok (ws, drawn) := by
  have draft : WorkspaceDraft.read (ws.toJsonSpelled s) = .ok ws.toDraft :=
    read_fits rfl rfl (readParts_mapIdx _ (fun i => Element.read_respelled .notObject (s.elements i)) rfl)
      (readParts_mapIdx _ (fun i => Relationship.read_respelled .notObject (s.relationships i)) rfl)
      (readParts_mapIdx _ (fun i => View.read_respelled .notObject (s.views i)) rfl)
  rw [read, draft]
  exact congrArg Except.ok (ws.complete_toDraft ids drawn)

end Workspace

end Blueprint
