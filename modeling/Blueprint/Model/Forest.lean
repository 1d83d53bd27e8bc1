/-
  Blueprint.Model.Forest — the elements as they are nested (the order in which `DSLGenerator._elements`
  visits them).

  An element stands inside its parent, and at the top if it has none or if its parent does not exist.
  Siblings keep the order of the workspace. Where an id repeats, the element that comes first from top
  to bottom stands for all of them, and what hangs on a cycle of parents stands nowhere.
-/

import Blueprint.Model.Workspace

namespace Blueprint

/-- An element with what is nested in it; `encloses` says that some element names it as its parent. -/
inductive Tree where
  | node (element : Element) (encloses : Bool) (nested : List Tree)
  deriving Repr

/-- The elements that belong directly inside one, or at the top. -/
def nestedIn (elements : List Element) : Option String → List Element
  | some id => elements.filter (·.parentId == some id)
  | none => elements.filter fun e =>
    match e.parentId with
    | some parent => !(elements.any (·.id == parent))
    | none => true

/-- Trees for elements in order, passing over ids that were met; `inside` grows what is nested in one. -/
def growEach (elements : List Element) (inside : List String → String → List Tree × List String) :
    List String → List Element → List Tree × List String
  | met, [] => ([], met)
  | met, e :: es =>
    if met.contains e.id then growEach elements inside met es
    else
      let (nested, met) := inside (e.id :: met) e.id
      let (rest, met) := growEach elements inside met es
      (.node e (!(nestedIn elements (some e.id)).isEmpty) nested :: rest, met)

def grow (elements : List Element) : Nat → List String → Option String → List Tree × List String
  | 0, met, _ => ([], met)
  | levels + 1, met, parent =>
    growEach elements (fun met id => grow elements levels met (some id)) met (nestedIn elements parent)

/-- Every level meets an id of its own, so there are no more levels than elements. -/
def Workspace.forest (ws : Workspace) : List Tree := (grow ws.elements ws.elements.length [] none).1

mutual

/-- The elements of a tree from top to bottom. -/
def Tree.preorder : Tree → List Element
  | .node e _ nested => e :: Tree.preorderAll nested

def Tree.preorderAll : List Tree → List Element
  | [] => []
  | t :: ts => t.preorder ++ Tree.preorderAll ts

end

end Blueprint
