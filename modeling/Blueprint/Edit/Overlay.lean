/-
  Blueprint.Edit.Overlay — values in the place of texts (what `set_workspace_info` and `rename_view` put
  there unchecked).

  A call may put any value where the name or the description of a workspace or the name of its
  landscape view belongs. A text goes into the workspace. Any other value is laid over it: the
  workspace itself then has the empty text there, or in a view a text that no one can write, and the
  value is shown in its place until a text is put there or the place is gone. A value that says nothing
  is written as the empty text; any other has no place in a document.

  Proved: without values laid over it, a workspace is shown (`toJson_of_plain`) and judged
  (`fault?_of_plain`) as it is, and so is it written and covered if there is no gap in its views
  (`document_of_plain`, `coverDeployments_of_plain`).
-/

import Blueprint.Dsl.Writer
import Blueprint.Edit.Call
import Blueprint.Text.Half
import Blueprint.Validation.Rules

namespace Blueprint

/-- Values laid over a workspace. -/
structure Overlay where
  name : Option Json := none
  description : Option Json := none
  /-- In the place of the names of views that have a gap there. -/
  viewName : Option Json := none
  deriving Repr

/-- The name of a view over which a value is laid. A mark alone says nothing, so no text that is read is
like it. -/
def gap : String := String.ofList [Text.mark]

/-- A workspace with values laid over it. -/
structure Overlaid where
  workspace : Workspace
  overlay : Overlay := {}
  deriving Repr

/-! ## Showing -/

/-- The object with a value in a field, if there is one. -/
def Json.withField (name : String) (value : Option Json) : Json → Json
  | .obj fields => .obj (value.elim fields (Json.Fields.set fields name))
  | j => j

def Overlay.isEmpty (o : Overlay) : Bool := o.name.isNone && o.description.isNone && o.viewName.isNone

def Overlay.viewJson (o : Overlay) (v : View) : Json :=
  if v.name = gap then v.toJson.withField "name" o.viewName else v.toJson

def Overlay.subjectJson (o : Overlay) : Subject → Json
  | .view v => o.viewJson v
  | s => s.toJson

namespace Overlaid

def toJson (l : Overlaid) : Json :=
  .obj [("name", l.overlay.name.getD (.str l.workspace.name)),
    ("description", l.overlay.description.getD (.str l.workspace.description)),
    ("elements", .arr (l.workspace.elements.map Element.toJson)),
    ("relationships", .arr (l.workspace.relationships.map Relationship.toJson)),
    ("views", .arr (l.workspace.views.map l.overlay.viewJson))]

/-! ## Calls -/

def isText : Json → Bool
  | .str _ => true
  | _ => false

/-- The call is about the landscape view. -/
def isOfLandscape (args : Json.Fields) : Bool := (argument args "view_id").asString? == some landscapeId

/-- The arguments with a text in the place of a value that is laid over it. -/
def textUnder (under name : String) (args : Json.Fields) : Json.Fields :=
  match Json.Fields.get? args name with
  | some j => if isText j then args else args.set name (.str under)
  | none => args

/-- As `textUnder`, null standing for nothing. -/
def textUnderUnlessNull (name : String) (args : Json.Fields) : Json.Fields :=
  if (argument args name).isNull then args else textUnder "" name args

/-- The view that a call is about has a gap for a name. -/
def isOfGap (ws : Workspace) (args : Json.Fields) : Bool :=
  (((argument args "view_id").asString?.bind ws.view?).map (·.name)) == some gap

/-- The arguments as the workspace takes them. A view is updated with the name that it shows. -/
def plainArguments (l : Overlaid) (operation : String) (args : Json.Fields) : Json.Fields :=
  match operation with
  | "set_workspace_info" => textUnderUnlessNull "name" (textUnderUnlessNull "description" args)
  | "rename_view" => if isOfLandscape args then textUnder gap "new_name" args else args
  | "update_view" =>
    match l.overlay.viewName with
    | some j => if isOfGap l.workspace args && !Json.Fields.has args "name" then args.set "name" j else args
    | none => args
  | _ => args

/-- What lies in a place after it has been given a value. -/
def laid (value : Json) : Option Json := if isText value then none else some value

/-- As `laid`, null standing for nothing. -/
def laidUnlessNull (before : Option Json) (value : Json) : Option Json := if value.isNull then before else laid value

/-- The values that lie over the workspace after a call has succeeded. -/
def overlayAfter (o : Overlay) (operation : String) (args : Json.Fields) : Overlay :=
  match operation with
  | "new_workspace" => {}
  | "set_workspace_info" =>
    { o with
      name := laidUnlessNull o.name (argument args "name")
      description := laidUnlessNull o.description (argument args "description") }
  | "rename_view" => if isOfLandscape args then { o with viewName := laid (argument args "new_name") } else o
  | _ => o

/-- The values that have a place in a workspace. -/
def placed (o : Overlay) (ws : Workspace) : Overlay :=
  if ws.views.any (·.name == gap) then o else { o with viewName := none }

def call (ids : IdSource) (drawn : Nat) (l : Overlaid) (operation : String) (args : Json.Fields) :
    Except Failure (Overlaid × Subject × Nat) := do
  let o ← l.workspace.call ids drawn operation (l.plainArguments operation args)
  return ({ workspace := o.workspace, overlay := placed (overlayAfter l.overlay operation args) o.workspace },
    o.subject, o.drawn)

/-! ## Documents -/

/-- A value lies there that is no text and says something. -/
def isStrange (value : Option Json) : Bool := value.any (!·.isVoid)

/-- The view has a gap and a place in the document. -/
def showsGap (ws : Workspace) (v : View) : Bool :=
  v.name == gap && (Dsl.anchorText? ws (Allocation.ofElements ws.elements) v).isSome

/-- The workspace with empty names in the place of gaps. -/
def withoutGaps (ws : Workspace) : Workspace :=
  { ws with views := ws.views.map fun v => if v.name = gap then { v with name := "" } else v }

/-- Views are written in their order, up to the first over which something strange is laid. -/
def document (l : Overlaid) : Except Accident String :=
  let ws := l.workspace
  if isStrange l.overlay.name || isStrange l.overlay.description then .error .noFields
  else if isStrange l.overlay.viewName && ws.views.any (showsGap ws) then do
    let _ ← Dsl.document (withoutGaps { ws with views := ws.views.takeWhile (!showsGap ws ·) })
    throw .noFields
  else Dsl.document (withoutGaps ws)

def fault? (l : Overlaid) : Except Accident (Option Fault) :=
  if isStrange l.overlay.name then .error .noFields else .ok l.workspace.fault?

/-! ## Covering -/

/-- What lies over the name of a view. -/
def nameOver (o : Overlay) (v : View) : Option Json := if v.name = gap then o.viewName else none

/-- The name of a view contains a text. A list contains its items and an object its names; what has no
parts cannot be asked. -/
def nameContains (o : Overlay) (v : View) (name : String) : Except Accident Bool :=
  match nameOver o v with
  | none => .ok (Text.isInfix name.toList v.name.toList)
  | some (.arr items) => .ok (items.any fun j => j.asString? == some name)
  | some (.obj fields) => .ok (Json.Fields.has fields name)
  | some _ => .error .notIterable

/-- The first deployment view that belongs to the node decides. -/
def hasDeploymentView (o : Overlay) (node : Element) : List View → Except Accident Bool
  | [] => .ok false
  | v :: vs =>
    if v.kind != .deployment then hasDeploymentView o node vs
    else if v.key == deploymentViewKey node.id then .ok true
    else do
      if ← nameContains o v node.name then return true
      hasDeploymentView o node vs

def coverDeployments (ids : IdSource) (o : Overlay) : List Element → List View × Nat → Except Accident (List View × Nat)
  | [], state => .ok state
  | e :: es, (views, drawn) => do
    let isCovered ← if e.kind == .deploymentNode then hasDeploymentView o e views else pure true
    coverDeployments ids o es
      (if isCovered then (views, drawn) else (views ++ [deploymentViewFor e (ids drawn)], drawn + 1))

/-- The workspace with every view that it should have, and the count of ids drawn after that. -/
def cover (ids : IdSource) (drawn : Nat) (l : Overlaid) : Except Accident (Overlaid × Nat) := do
  let (ws, drawn) := l.workspace.coverLandscape.coverContainers ids drawn
  let (views, drawn) ← coverDeployments ids l.overlay ws.elements (ws.views, drawn)
  return ({ l with workspace := { ws with views } }, drawn)

/-! ## Small facts -/

theorem viewJson_of_plain (v : View) : Overlay.viewJson {} v = v.toJson := by
  unfold Overlay.viewJson
  split <;> rfl

theorem toJson_of_plain (ws : Workspace) : toJson { workspace := ws } = ws.toJson := by
  have views : ws.views.map (Overlay.viewJson {}) = ws.views.map View.toJson :=
    List.map_congr_left fun v _ => viewJson_of_plain v
  simp only [toJson, Workspace.toJson, views, Option.getD_none]

theorem withoutGaps_of_none {ws : Workspace} (h : ∀ v ∈ ws.views, v.name ≠ gap) : withoutGaps ws = ws := by
  have views : (ws.views.map fun v => if v.name = gap then { v with name := "" } else v) = ws.views := by
    refine (List.map_congr_left fun v hv => ?_).trans (List.map_id ws.views)
    exact if_neg (h v hv)
  rw [withoutGaps, views]

theorem document_of_plain {ws : Workspace} (h : ∀ v ∈ ws.views, v.name ≠ gap) :
    document { workspace := ws } = Dsl.document ws := by
  show Dsl.document (withoutGaps ws) = Dsl.document ws
  rw [withoutGaps_of_none h]

theorem hasDeploymentView_of_plain (node : Element) (views : List View) :
    hasDeploymentView {} node views = .ok (Blueprint.hasDeploymentView views node) := by
  induction views with
  | nil => rfl
  | cons v vs ih =>
    have bare : nameOver {} v = none := by unfold nameOver; split <;> rfl
    have contains : nameContains {} v node.name = .ok (Text.isInfix node.name.toList v.name.toList) := by
      rw [nameContains, bare]
    unfold hasDeploymentView
    by_cases hk : (v.kind == .deployment) = true
    · by_cases hkey : (v.key == deploymentViewKey node.id) = true
      · simp [bne, hk, hkey, Blueprint.hasDeploymentView]
      · cases hn : Text.isInfix node.name.toList v.name.toList <;>
          simp_all [bne, Blueprint.hasDeploymentView, bind, Except.bind, pure, Except.pure]
    · simp_all [bne, Blueprint.hasDeploymentView]

/-- Without values laid over it, covering is that of the workspace. -/
theorem coverDeployments_of_plain (ids : IdSource) (elements : List Element) (state : List View × Nat) :
    coverDeployments ids {} elements state =
      .ok (Workspace.addViews ids .deploymentNode Blueprint.hasDeploymentView deploymentViewFor elements state) := by
  induction elements generalizing state with
  | nil => rfl
  | cons e es ih =>
    obtain ⟨views, drawn⟩ := state
    unfold coverDeployments Workspace.addViews
    by_cases hk : (e.kind == .deploymentNode) = true
    · cases hv : Blueprint.hasDeploymentView views e <;>
        simp [hk, hv, hasDeploymentView_of_plain, ih, bind, Except.bind]
    · simp [hk, ih, bind, Except.bind, pure, Except.pure]

theorem fault?_of_plain (ws : Workspace) : fault? { workspace := ws } = .ok ws.fault? := rfl

end Overlaid

end Blueprint
