/-
  Blueprint.Validation.Rules — what a model must satisfy (`validate_element`, `validate_relationship`,
  `validate_view`, `validate_workspace`).

  Each rule looks at one thing and gives the first fault it finds, if any. A workspace is looked
  through in a fixed order: its name, its elements, its relationships, the parents, the views. Where an
  id repeats, the last element that has it counts.

  Proved: a workspace without a fault is one in which no rule finds any (`fault?_eq_none_iff`).
-/

import Blueprint.Dsl.Statement
import Blueprint.Fault
import Blueprint.Model.Workspace
import Blueprint.Text.Blank
import Blueprint.Text.Infix

namespace Blueprint

open Text

def isBlankText (s : String) : Bool := allBlank s.toList

/-- The first of several faults. -/
def firstFault? (faults : List (Option Fault)) : Option Fault := faults.findSome? id

/-! ## Elements -/

def Element.fault? (e : Element) : Option Fault :=
  if isBlankText e.id then some .elementIdMissing
  else if isBlankText e.name then some (.elementNameMissing e.id)
  else none

/-! ## Relationships -/

/-- `known` are the ids of all elements, `groups` those of the groups. -/
def Relationship.fault? (r : Relationship) (known groups : List String) : Option Fault :=
  if isBlankText r.id then some .relationshipIdMissing
  else if isBlankText r.description then some (.relationshipDescriptionMissing r.id)
  else if !known.contains r.sourceId then some (.sourceMissing r.sourceId)
  else if !known.contains r.targetId then some (.targetMissing r.targetId)
  else if groups.contains r.sourceId then some (.groupAtEnd r.sourceId r.id)
  else if groups.contains r.targetId then some (.groupAtEnd r.targetId r.id)
  else if r.sourceId = r.targetId then some (.selfReference r.id)
  else none

/-! ## Views -/

def View.fault? (v : View) (elements : List Element) : Option Fault :=
  if isBlankText v.id then some .viewIdMissing
  else match v.kind.anchorKind, v.anchorId with
    | some expected, some id =>
      match Workspace.lastElement? elements id with
      | none => some (.anchorMissing v.key id)
      | some anchor =>
        if anchor.kind = expected then none
        else some (.anchorOfWrongKind v.key expected.label anchor.kind.label)
    | _, _ => none

/-! ## Workspaces -/

/-- An empty parent is none. -/
def Element.parentFault? (e : Element) (known : List String) : Option Fault :=
  match e.parentId with
  | some parent => if parent != "" && !known.contains parent then some (.parentMissing e.id parent) else none
  | none => none

namespace Workspace

def groupIds (ws : Workspace) : List String := (ws.elements.filter (·.kind == .group)).map (·.id)

def fault? (ws : Workspace) : Option Fault :=
  firstFault?
    [if isBlankText ws.name then some .workspaceNameMissing else none,
      ws.elements.findSome? Element.fault?,
      ws.relationships.findSome? (·.fault? ws.elementIds ws.groupIds),
      ws.elements.findSome? (·.parentFault? ws.elementIds),
      ws.views.findSome? (·.fault? ws.elements)]

end Workspace

/-! ## Documents -/

/-- Whether a text may be a document, without reading it. -/
def Dsl.candidateFault? (text : String) : Option Fault :=
  if isBlankText text then some .emptyCandidate
  else if !isInfix "workspace".toList text.toList then some .candidateWithoutWorkspace
  else
    let (opened, closed) := braceCounts text
    if opened = closed then none else some (.unbalancedCandidate opened closed)

/-! ## Small facts -/

theorem firstFault?_eq_none_iff {faults : List (Option Fault)} : firstFault? faults = none ↔ ∀ f ∈ faults, f = none := by
  simp [firstFault?]

theorem Workspace.fault?_eq_none_iff {ws : Workspace} :
    ws.fault? = none ↔ isBlankText ws.name = false ∧ (∀ e ∈ ws.elements, e.fault? = none) ∧
      (∀ r ∈ ws.relationships, r.fault? ws.elementIds ws.groupIds = none) ∧
      (∀ e ∈ ws.elements, e.parentFault? ws.elementIds = none) ∧ ∀ v ∈ ws.views, v.fault? ws.elements = none := by
  simp [Workspace.fault?, firstFault?_eq_none_iff]

end Blueprint
