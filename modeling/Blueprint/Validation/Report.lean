/-
  Blueprint.Validation.Report — everything that is wrong or doubtful in a workspace (`collect_issues`,
  `validation_summary`).

  A report goes on where validation would stop. A `Problem` is one finding: its constructor is the
  cause, and its severity, its message and what it points at are functions of it. Problems are listed
  element by element, then relationship by relationship, then for the model as a whole, then view by
  view.
-/

import Blueprint.Number.Numeral
import Blueprint.Validation.Rules

namespace Blueprint

inductive Severity where
  | error
  | warning
  | info
  deriving DecidableEq, Repr

def Severity.all : List Severity := [error, warning, info]

def Severity.keyword : Severity → String
  | error => "error"
  | warning => "warning"
  | info => "info"

inductive Problem where
  | noElements
  | emptyName (element : String)
  | parentMissing (element parent : String)
  | sourceMissing (relationship source : String)
  | targetMissing (relationship target : String)
  | groupConnected (relationship group name : String)
  | selfReference (relationship element : String)
  /-- An earlier relationship has the same ends. -/
  | duplicate (relationship source target : String)
  /-- Elements that no relationship connects, where there are relationships. -/
  | orphans (elements : List Element)
  | viewFault (view : String) (fault : Fault)
  | severalLandscapes (count : Nat)
  deriving DecidableEq, Repr

namespace Problem

def severity : Problem → Severity
  | noElements => .info
  | emptyName _ | parentMissing .. | sourceMissing .. | targetMissing .. | groupConnected .. | viewFault .. => .error
  | selfReference .. | duplicate .. | orphans _ | severalLandscapes _ => .warning

def message : Problem → String
  | noElements => "Workspace has no elements"
  | emptyName _ => "Element has an empty name"
  | parentMissing _ parent => "Element references non-existent parent: " ++ parent
  | sourceMissing _ source => "Relationship references non-existent source element: " ++ source
  | targetMissing _ target => "Relationship references non-existent target element: " ++ target
  | groupConnected _ _ name => "Relationship cannot connect a group: " ++ name
  | selfReference .. => "Self-referencing relationship (element points to itself)"
  | duplicate _ source target => "Duplicate relationship from " ++ source ++ " to " ++ target
  | orphans elements =>
    "Orphan elements (no relationships): " ++ ", ".intercalate (elements.map fun e => e.name ++ " (" ++ e.id ++ ")")
  | viewFault _ fault => fault.message
  | severalLandscapes count => "Workspace has " ++ natText count ++ " landscape views"

def elementId : Problem → Option String
  | emptyName element | parentMissing element _ | groupConnected _ element _ | selfReference _ element => some element
  | _ => none

def relationshipId : Problem → Option String
  | sourceMissing relationship _ | targetMissing relationship _ | groupConnected relationship ..
  | selfReference relationship _ | duplicate relationship .. => some relationship
  | _ => none

def viewId : Problem → Option String
  | viewFault view _ => some view
  | _ => none

/-- A field of a report, which does without empty ones. -/
def field (name : String) : Option String → Json.Fields
  | some s => if s = "" then [] else [(name, .str s)]
  | none => []

def toJson (p : Problem) : Json :=
  .obj ([("type", .str p.severity.keyword), ("message", .str p.message)] ++ field "element_id" p.elementId ++
    field "relationship_id" p.relationshipId ++ field "view_id" p.viewId)

end Problem

/-! ## Looking for problems -/

def Element.problems (e : Element) (known : List String) : List Problem :=
  (if isBlankText e.name then [.emptyName e.id] else []) ++
    match e.parentId with
    | some parent => if parent != "" && !known.contains parent then [.parentMissing e.id parent] else []
    | none => []

/-- The end of a relationship that is a group. -/
def groupProblems (elements : List Element) (relationship endpoint : String) : List Problem :=
  match Workspace.lastElement? elements endpoint with
  | some e => if e.kind = .group then [.groupConnected relationship endpoint e.name] else []
  | none => []

def Relationship.sameEnds (r s : Relationship) : Bool := r.sourceId == s.sourceId && r.targetId == s.targetId

/-- `earlier` are the relationships before it. -/
def Relationship.problems (r : Relationship) (elements : List Element) (earlier : List Relationship) : List Problem :=
  let known := elements.map (·.id)
  (if known.contains r.sourceId then [] else [.sourceMissing r.id r.sourceId]) ++
    (if known.contains r.targetId then [] else [.targetMissing r.id r.targetId]) ++
    groupProblems elements r.id r.sourceId ++ groupProblems elements r.id r.targetId ++
    (if r.sourceId = r.targetId then [.selfReference r.id r.sourceId] else []) ++
    (if earlier.any r.sameEnds then [.duplicate r.id r.sourceId r.targetId] else [])

def relationshipProblems (elements : List Element) (earlier : List Relationship) : List Relationship → List Problem
  | [] => []
  | r :: rs => r.problems elements earlier ++ relationshipProblems elements (r :: earlier) rs

def View.problems (v : View) (elements : List Element) : List Problem :=
  match v.fault? elements with
  | some fault => [.viewFault v.id fault]
  | none => []

namespace Workspace

def isConnected (ws : Workspace) (id : String) : Bool :=
  ws.relationships.any fun r => r.sourceId == id || r.targetId == id

def orphans (ws : Workspace) : List Element :=
  ws.elements.filter fun e => e.kind != .group && !ws.isConnected e.id

def landscapeCount (ws : Workspace) : Nat := ws.views.countP (·.kind == .systemLandscape)

def problems (ws : Workspace) : List Problem :=
  (if ws.elements.isEmpty then [.noElements] else []) ++
    ws.elements.flatMap (·.problems ws.elementIds) ++
    relationshipProblems ws.elements [] ws.relationships ++
    (if ws.orphans.isEmpty || ws.relationships.isEmpty then [] else [.orphans ws.orphans]) ++
    ws.views.flatMap (·.problems ws.elements) ++
    (if 1 < ws.landscapeCount then [.severalLandscapes ws.landscapeCount] else [])

end Workspace

/-! ## Reports -/

def countOf (problems : List Problem) (severity : Severity) : Nat := problems.countP (·.severity == severity)

def isSound (problems : List Problem) : Bool := countOf problems .error == 0

def problemsJson (problems : List Problem) : Json := .arr (problems.map Problem.toJson)

def summaryJson (problems : List Problem) : Json :=
  .obj [("total", .nat problems.length), ("errors", .nat (countOf problems .error)),
    ("warnings", .nat (countOf problems .warning)), ("info", .nat (countOf problems .info)),
    ("valid", .bool (isSound problems))]

end Blueprint
