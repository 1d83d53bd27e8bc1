/-
  Blueprint.Dsl.Document — reading a whole document (`parse_dsl_with_diagnostics`,
  `check_brace_balance`, `ModelBuilder.build`).

  A document whose braces do not balance is refused. Any other is read: its statements are fed to a
  builder, then the relationships, the anchors of the views and the positions are resolved, and the
  views that are missing are added. What cannot be resolved is left out, with a warning. Ids are drawn
  for the resolved relationships in order, and after them for the views that are added.
-/

import Blueprint.Dsl.Builder
import Blueprint.Fault
import Blueprint.View.Coverage

namespace Blueprint.Dsl

namespace Builder

def groupSize : Size := ⟨.ofNat ElementKind.group.defaultSize.1, .ofNat ElementKind.group.defaultSize.2⟩

def elementOf (b : Builder) (index : Nat) (p : PendingElement) : Element :=
  { id := p.id, kind := p.kind, name := p.name, description := p.description, technology := p.technology
    tags := p.tags, parentId := p.parentId, isExternal := p.isExternal
    position := Positions.resolve b.positions p.identifier index
    size := if p.kind = .group then some groupSize else none }

def buildElements (b : Builder) : List Element := b.elements.mapIdx b.elementOf

/-- What an identifier stands for; an empty id stands for nothing. -/
def idOf? (b : Builder) (reference : String) : Option String :=
  (b.table.resolve reference).bind fun id => if id = "" then none else some id

/-- The ids at both ends of a relationship. -/
def endsOf? (b : Builder) (p : PendingRelationship) : Option (String × String) :=
  match b.idOf? p.source, b.idOf? p.target with
  | some source, some target => some (source, target)
  | _, _ => none

def unresolvedEnds (p : PendingRelationship) : String :=
  "Line " ++ natText p.line ++ ": could not resolve relationship elements: " ++ p.source ++ " -> " ++ p.target

/-- The relationships that resolve, and a warning for each other one. -/
def resolveRelationships (ids : IdSource) (b : Builder) (drawn : Nat) :
    List PendingRelationship → List Relationship × List String × Nat
  | [] => ([], [], drawn)
  | p :: ps =>
    match b.endsOf? p with
    | some (sourceId, targetId) =>
      let (rs, ws, n) := b.resolveRelationships ids (drawn + 1) ps
      ({ id := ids drawn, sourceId, targetId, description := p.description, technology := p.technology
         tags := p.tags } :: rs, ws, n)
    | none =>
      let (rs, ws, n) := b.resolveRelationships ids drawn ps
      (rs, unresolvedEnds p :: ws, n)

def unresolvedAnchor (p : PendingView) (anchor : String) : String :=
  "Line " ++ natText p.line ++ ": could not resolve " ++ p.view.kind.keyword ++ " view anchor: " ++ anchor

/-- A view with its anchor, or the warning that it has none. -/
def resolveView (b : Builder) (elements : List Element) (p : PendingView) : Except String View :=
  match p.anchor with
  | none => .ok p.view
  | some anchor =>
    let id? := if anchor = "*" then none else b.table.resolve anchor
    if p.view.kind = .deployment then
      match id? with
      | some id =>
        let isNode := (Workspace.lastElement? elements id).any (·.kind == .deploymentNode)
        .ok (if id != "" && isNode then { p.view with key := deploymentViewKey id } else p.view)
      | none => .ok p.view
    else match id? with
      | none => .error (unresolvedAnchor p anchor)
      | some id =>
        .ok (if p.view.kind = .component then { p.view with containerId := some id }
          else { p.view with softwareSystemId := some id })

def resolveViews (b : Builder) (elements : List Element) : List PendingView → List View × List String
  | [] => ([], [])
  | p :: ps =>
    let (vs, ws) := b.resolveViews elements ps
    match b.resolveView elements p with
    | .ok v => (v :: vs, ws)
    | .error w => (vs, w :: ws)

end Builder

/-- A document that was read: the workspace, the warnings, and the count of ids drawn after that. -/
structure Parsed where
  workspace : Workspace
  warnings : List String
  drawn : Nat
  deriving DecidableEq, Repr

/-- The name of the workspace; an empty one gives way to the usual one. -/
def Builder.name (b : Builder) : String :=
  match b.heading with
  | some (name, _) => if name = "" then importedWorkspaceName else name
  | none => importedWorkspaceName

def Builder.build (ids : IdSource) (b : Builder) : Parsed :=
  let elements := b.buildElements
  let (relationships, relationshipWarnings, drawn) := b.resolveRelationships ids b.drawn b.relationships
  let (views, viewWarnings) := b.resolveViews elements b.views
  let ws : Workspace :=
    { name := b.name, description := (b.heading.map (·.2)).getD "", elements, relationships, views }
  let (workspace, drawn) := ws.cover ids drawn
  { workspace, warnings := b.warnings ++ relationshipWarnings ++ viewWarnings, drawn }

/-- Refuses a text with more braces of one sort than of the other. -/
def checkBalance (text : String) : Except Fault Unit :=
  let (opened, closed) := braceCounts text
  if opened = closed then .ok () else .error (.unbalancedBraces opened closed)

/-- Reads a document; `drawn` ids were drawn before. -/
def parse (ids : IdSource) (drawn : Nat) (text : String) : Except Fault Parsed :=
  (checkBalance text).map fun _ => (Builder.feedAll ids { drawn } (tokenize text)).build ids

end Blueprint.Dsl
