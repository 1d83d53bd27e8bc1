/-
  Blueprint.Model.Kind — the closed vocabularies of a C4 model (`ElementKind`, `RelationshipKind`,
  `ViewKind`).

  Every kind has a keyword, by which texts and files name it, and the vocabularies are listed in the
  order in which they are shown. A view shows the positions of some kinds of elements, and a view that
  is anchored on an element wants one of a certain kind.

  Proved: a keyword names its own kind (`ofKeyword?_keyword`).
-/

namespace Blueprint

inductive ElementKind where
  | person
  | softwareSystem
  | container
  | component
  | deploymentNode
  | infrastructureNode
  | group
  deriving DecidableEq, Repr

namespace ElementKind

def all : List ElementKind :=
  [person, softwareSystem, container, component, deploymentNode, infrastructureNode, group]

def keyword : ElementKind → String
  | person => "person"
  | softwareSystem => "softwareSystem"
  | container => "container"
  | component => "component"
  | deploymentNode => "deploymentNode"
  | infrastructureNode => "infrastructureNode"
  | group => "group"

def ofKeyword? (word : String) : Option ElementKind := all.find? (·.keyword == word)

def label : ElementKind → String
  | person => "Person"
  | softwareSystem => "Software System"
  | container => "Container"
  | component => "Component"
  | deploymentNode => "Deployment Node"
  | infrastructureNode => "Infrastructure Node"
  | group => "Group"

/-- Whether a declaration of this kind has a place for a technology. -/
def hasTechnology : ElementKind → Bool
  | container | component | deploymentNode | infrastructureNode => true
  | person | softwareSystem | group => false

/-- The built-in tag that the styles of a document give a look to. -/
def styleTag : ElementKind → Option String
  | person => some "Person"
  | softwareSystem => some "Software System"
  | container => some "Container"
  | component => some "Component"
  | deploymentNode | infrastructureNode | group => none

/-- Width and height on the canvas. -/
def defaultSize : ElementKind → Nat × Nat
  | person => (160, 180)
  | softwareSystem => (200, 120)
  | container => (200, 120)
  | component => (180, 100)
  | deploymentNode => (240, 160)
  | infrastructureNode => (200, 120)
  | group => (600, 400)

/-- The kinds that a document declares by their keyword; groups are declared in a way of their own. -/
def declarable : List ElementKind := all.filter (· != group)

theorem mem_all (k : ElementKind) : k ∈ all := by cases k <;> decide

theorem ofKeyword?_keyword (k : ElementKind) : ofKeyword? k.keyword = some k := by cases k <;> decide

end ElementKind

inductive RelationshipKind where
  | uses
  | interactsWith
  | delivers
  | influences
  deriving DecidableEq, Repr

namespace RelationshipKind

def all : List RelationshipKind := [uses, interactsWith, delivers, influences]

def keyword : RelationshipKind → String
  | uses => "uses"
  | interactsWith => "interactsWith"
  | delivers => "delivers"
  | influences => "influences"

def ofKeyword? (word : String) : Option RelationshipKind := all.find? (·.keyword == word)

theorem ofKeyword?_keyword (k : RelationshipKind) : ofKeyword? k.keyword = some k := by cases k <;> decide

end RelationshipKind

inductive ViewKind where
  | systemLandscape
  | systemContext
  | container
  | component
  | deployment
  deriving DecidableEq, Repr

namespace ViewKind

def all : List ViewKind := [systemLandscape, systemContext, container, component, deployment]

def keyword : ViewKind → String
  | systemLandscape => "systemLandscape"
  | systemContext => "systemContext"
  | container => "container"
  | component => "component"
  | deployment => "deployment"

def ofKeyword? (word : String) : Option ViewKind := all.find? (·.keyword == word)

/-- The kinds of elements whose positions the view records. -/
def visibleKinds : ViewKind → List ElementKind
  | systemLandscape => [.person, .softwareSystem]
  | systemContext => [.person, .softwareSystem]
  | container => [.person, .softwareSystem, .container]
  | component => [.person, .softwareSystem, .container, .component]
  | deployment => [.softwareSystem, .container, .deploymentNode, .infrastructureNode]

/-- The kind that the anchor must have. A deployment view is tied to its node by its key instead. -/
def anchorKind : ViewKind → Option ElementKind
  | systemLandscape => none
  | systemContext => some .softwareSystem
  | container => some .softwareSystem
  | component => some .container
  | deployment => none

theorem ofKeyword?_keyword (k : ViewKind) : ofKeyword? k.keyword = some k := by cases k <;> decide

end ViewKind

end Blueprint
