/-
  Blueprint.View.Coverage — the views that a workspace should not be without (`synthesize_views`, over
  `ensure_landscape_view`, `ensure_container_views`, `ensure_deployment_views`).

  A workspace is covered if it has a landscape view, a container view for every software system and a
  deployment view for every deployment node. Covering it adds what is missing and changes nothing else:
  the landscape view in front, the others at the end, element by element. A deployment view belongs to
  a node by its key, or because its name contains the node's name.
-/

import Blueprint.Model.Workspace
import Blueprint.Text.Infix

namespace Blueprint

open Text

def containerViewKey (system : String) : String := "view-" ++ system

def componentViewKey (container : String) : String := "components-" ++ container

def deploymentViewKey (node : String) : String := "deploy-" ++ node

def containerViewFor (system : Element) (id : String) : View :=
  { id, key := containerViewKey system.id, kind := .container, softwareSystemId := some system.id
    name := system.name ++ " - Containers", description := "Auto-generated container view" }

def componentViewFor (container : Element) (id : String) : View :=
  { id, key := componentViewKey container.id, kind := .component, containerId := some container.id
    name := container.name ++ " - Components", description := "Auto-generated component view" }

def deploymentViewFor (node : Element) (id : String) : View :=
  { id, key := deploymentViewKey node.id, kind := .deployment
    name := node.name ++ " - Deployment", description := "Auto-generated deployment view" }

def hasContainerView (views : List View) (system : Element) : Bool :=
  views.any fun v => v.kind == .container && v.softwareSystemId == some system.id

def hasDeploymentView (views : List View) (node : Element) : Bool :=
  views.any fun v => v.kind == .deployment &&
    (v.key == deploymentViewKey node.id || isInfix node.name.toList v.name.toList)

def hasLandscapeView (views : List View) : Bool := views.any (·.kind == .systemLandscape)

namespace Workspace

def coverLandscape (ws : Workspace) : Workspace :=
  if hasLandscapeView ws.views then ws
  else
    let view := landscapeView "Auto-generated landscape view"
    let view := if (ws.view? landscapeId).isSome then { view with id := landscapeId ++ "-root" } else view
    { ws with views := view :: ws.views }

/-- Adds a view for each element of a kind that has none yet, drawing an id for each. -/
def addViews (ids : IdSource) (kind : ElementKind) (has : List View → Element → Bool)
    (make : Element → String → View) : List Element → List View × Nat → List View × Nat
  | [], state => state
  | e :: es, (views, drawn) =>
    addViews ids kind has make es <|
      if e.kind == kind && !has views e then (views ++ [make e (ids drawn)], drawn + 1) else (views, drawn)

def coverContainers (ids : IdSource) (drawn : Nat) (ws : Workspace) : Workspace × Nat :=
  let (views, drawn) :=
    addViews ids .softwareSystem hasContainerView containerViewFor ws.elements (ws.views, drawn)
  ({ ws with views }, drawn)

def coverDeployments (ids : IdSource) (drawn : Nat) (ws : Workspace) : Workspace × Nat :=
  let (views, drawn) :=
    addViews ids .deploymentNode hasDeploymentView deploymentViewFor ws.elements (ws.views, drawn)
  ({ ws with views }, drawn)

/-- The workspace with every view that it should have, and the count of ids drawn after that. -/
def cover (ids : IdSource) (drawn : Nat) (ws : Workspace) : Workspace × Nat :=
  let (ws, drawn) := ws.coverLandscape.coverContainers ids drawn
  ws.coverDeployments ids drawn

end Workspace

end Blueprint
