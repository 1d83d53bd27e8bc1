/-
  Blueprint.Dsl.Writer — writing a workspace as a document (`generate_dsl`: `_model`, `_elements`,
  `_declaration`, `_views` and `_styles` of `DSLGenerator`).

  The model block declares the elements as they are nested, then the relationships; groups have no
  identifier, so what refers to one is left out. Each view records the positions of the elements it
  shows in comments, as whole numbers, which only finite coordinates have. A view whose anchor cannot
  be named is left out. The styles are always the same.
-/

import Blueprint.Dsl.Argument
import Blueprint.Dsl.Outline
import Blueprint.Fault
import Blueprint.Identifier.Allocation
import Blueprint.Identifier.Slug
import Blueprint.Model.Forest
import Blueprint.View.Coverage

namespace Blueprint.Dsl

open Text

/-- The step by which the contents of a block stand further in, unless another is asked for. -/
def usualStep : List Char := "    ".toList

/-! ## Elements and relationships -/

def elementTags (e : Element) : List String :=
  if e.isExternal && !e.tags.contains externalTag then e.tags ++ [externalTag] else e.tags

def declaration (e : Element) : List Char :=
  let tags := some (joinTags (elementTags e))
  let tail := if e.kind.hasTechnology then [some e.description, e.technology, tags] else [some e.description, tags]
  e.kind.keyword.toList ++ ' ' :: quote e.name.toList ++ quotedTail tail

/-- The identifier of an element, which has one if it is among those that were allocated. -/
def identifierOf (names : Allocation) (id : String) : List Char := ((names.get? id).getD "").toList

mutual

def treeOutline (names : Allocation) : Tree → Outline
  | .node e encloses nested =>
    if e.kind = .group then .block ("group ".toList ++ quote e.name.toList) (treeOutlines names nested)
    else
      let header := identifierOf names e.id ++ " = ".toList ++ declaration e
      if encloses then .block header (treeOutlines names nested) else .line header

def treeOutlines (names : Allocation) : List Tree → List Outline
  | [] => []
  | t :: ts => treeOutline names t :: treeOutlines names ts

end

def isGroupId (elements : List Element) (id : String) : Bool :=
  elements.any fun e => e.kind == .group && e.id == id

def relationshipLine? (ws : Workspace) (names : Allocation) (r : Relationship) : Option Outline :=
  if isGroupId ws.elements r.sourceId || isGroupId ws.elements r.targetId then none
  else match names.get? r.sourceId, names.get? r.targetId with
    | some source, some target =>
      some <| .line <| source.toList ++ " -> ".toList ++ target.toList ++
        ' ' :: quote r.description.toList ++ quotedTail [r.technology, some (joinTags r.tags)]
    | _, _ => none

def modelOutline (ws : Workspace) (names : Allocation) : Outline :=
  .block "model".toList <|
    treeOutlines names ws.forest ++ (if ws.elements.isEmpty then [] else [.gap]) ++
      ws.relationships.filterMap (relationshipLine? ws names)

/-! ## Views -/

/-- The deployment node that a view belongs to by its key, or a star. -/
def deploymentAnchor (ws : Workspace) (names : Allocation) (v : View) : List Char :=
  match ws.elements.find? fun e => e.kind == .deploymentNode && v.key == deploymentViewKey e.id with
  | some e => identifierOf names e.id
  | none => ['*']

/-- How the view refers to what it is about; none if it should but cannot. -/
def anchorText? (ws : Workspace) (names : Allocation) (v : View) : Option (List Char) :=
  match v.kind with
  | .systemLandscape => some []
  | .deployment => some (deploymentAnchor ws names v ++ [' '])
  | _ => (v.anchorId.bind names.get?).map fun name => name.toList ++ [' ']

def viewHeader (v : View) (anchor : List Char) : List Char :=
  v.kind.keyword.toList ++ ' ' :: anchor ++ quote (sanitizeKey v.key.toList) ++
    ' ' :: quote v.description.toList

/-- A coordinate as it is written. -/
def wholeText : Binary64 → Except Accident (List Char)
  | .finite negative m e => .ok (intDigits (Binary64.nearestInt negative m e))
  | .infinite _ => .error .infiniteNumber
  | .undefined => .error .undefinedNumber

def positionLine (names : Allocation) (e : Element) : Except Accident Outline := do
  let x ← wholeText e.position.x
  let y ← wholeText e.position.y
  return .line ("# element ".toList ++ identifierOf names e.id ++ ' ' :: x ++ ' ' :: y)

def shownElements (ws : Workspace) (kind : ViewKind) : List Element :=
  ws.elements.filter (kind.visibleKinds.contains ·.kind)

def includeLine : Outline := .line "include *".toList

def arrangementLine : Outline := .line "autoLayout lr".toList

def titleLines (v : View) : List Outline :=
  if v.name != "" && v.name != v.key then [.line ("title ".toList ++ quote v.name.toList)] else []

/-- The block of a view and the gap behind it; nothing if the view has no anchor that it needs. -/
def viewOutlines (ws : Workspace) (names : Allocation) (v : View) : Except Accident (List Outline) :=
  match anchorText? ws names v with
  | none => .ok []
  | some anchor => do
    let positions ← (shownElements ws v.kind).mapM (positionLine names)
    return [.block (viewHeader v anchor) (titleLines v ++ includeLine :: positions ++ [arrangementLine]), .gap]

/-- A workspace without views gets the context of its first software system. -/
def contextOutlines (ws : Workspace) (names : Allocation) : List Outline :=
  match ws.elements.find? (·.kind == .softwareSystem) with
  | some system =>
    [.block ("systemContext ".toList ++ identifierOf names system.id ++ " \"Context\" \"Context View\"".toList)
      [includeLine, arrangementLine], .gap]
  | none => []

/-! ## Styles -/

structure Style where
  tag : String
  shape : Option String := none
  background : String
  color : String

/-- The colours of background and text for each built-in tag. -/
def styleColors : Dictionary (String × String) :=
  ⟨[("Person", "#08427b", "#ffffff"), ("Software System", "#1168bd", "#ffffff"), ("Container", "#438dd5", "#ffffff"),
    ("Component", "#85bbf0", "#000000")]⟩

/-- The look of a kind by its built-in tag, if it has one. Only people have a shape of their own. -/
def kindStyle? (kind : ElementKind) : Option Style := do
  let tag ← kind.styleTag
  let (background, color) ← styleColors.find? tag
  return { tag, shape := if kind = .person then some "Person" else none, background, color }

def externalStyle : Style := { tag := externalTag, background := "#999999", color := "#ffffff" }

def styles : List Style := ElementKind.all.filterMap kindStyle? ++ [externalStyle]

/-- Every built-in tag has its colours. -/
theorem isSome_find?_styleTag {kind : ElementKind} {tag : String} (h : kind.styleTag = some tag) :
    (styleColors.find? tag).isSome = true := by
  cases kind <;> cases h <;> decide

def Style.outline (s : Style) : Outline :=
  let shape := match s.shape with
    | some shape => [Outline.line ("shape ".toList ++ shape.toList)]
    | none => []
  .block ("element ".toList ++ quote s.tag.toList) <|
    shape ++ [.line ("background ".toList ++ s.background.toList), .line ("color ".toList ++ s.color.toList)]

def stylesOutline : Outline := .block "styles".toList (styles.map Style.outline)

/-! ## Documents -/

def viewsOutline (ws : Workspace) (names : Allocation) : Except Accident Outline := do
  let views ← ws.views.mapM (viewOutlines ws names)
  let context := if ws.views.isEmpty then contextOutlines ws names else []
  return .block "views".toList (context ++ views.flatten ++ [stylesOutline])

def workspaceOutline (ws : Workspace) : Except Accident Outline := do
  let names := Allocation.ofElements ws.elements
  let views ← viewsOutline ws names
  return .block ("workspace ".toList ++ quote ws.name.toList ++ ' ' :: quote ws.description.toList)
    [.gap, modelOutline ws names, .gap, views]

/-- The document of a workspace; the contents of a block stand `step` further in. -/
def write (ws : Workspace) (step : List Char) : Except Accident String := do
  let outline ← workspaceOutline ws
  return String.ofList (outline.text step)

/-- The document of a workspace as it is usually written. -/
def document (ws : Workspace) : Except Accident String := write ws usualStep

end Blueprint.Dsl
