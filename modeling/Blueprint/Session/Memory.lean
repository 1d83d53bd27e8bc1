/-
  Blueprint.Session.Memory — documents in the place of the open workspace (`remember_positions`,
  `import_dsl`, `export_dsl` and `auto_layout` of `WorkspaceManager`).

  Reading a document draws new ids, so positions are carried over by name and kind: what is remembered
  from earlier workspaces and then from the open one goes before what the document records.
-/

import Blueprint.Dsl.Document
import Blueprint.Edit.Overlay
import Blueprint.Session.State

namespace Blueprint

/-- A kind has no bar, so the last one parts name and kind. -/
def Element.memoryKey (e : Element) : String := e.name ++ "|" ++ e.kind.keyword

namespace Session

def rememberEach (remembered : Dictionary Position) (elements : List Element) : Dictionary Position :=
  elements.foldl (fun d e => d.insert e.memoryKey e.position) remembered

/-- Remembers the positions in the open workspace. -/
def remember (s : Session) : Session :=
  match s.workspace with
  | some ws => { s with remembered := rememberEach s.remembered ws.elements }
  | none => s

/-- An element in the position that is remembered for it. -/
def restored (remembered : Dictionary Position) (e : Element) : Element :=
  { e with position := (remembered.find? e.memoryKey).getD e.position }

def restoredIn (remembered : Dictionary Position) (ws : Workspace) : Workspace :=
  { ws with elements := ws.elements.map (restored remembered) }

/-- Commits what a document says; also the count of ids drawn after that. -/
def importDocument (ids : IdSource) (drawn : Nat) (s : Session) (text : String) : Except Fault (Session × Nat) := do
  let p ← Dsl.parse ids drawn text
  let s := { s with warnings := p.warnings }.remember
  return (s.commit (restoredIn s.remembered p.workspace), p.drawn)

/-- The document of the open workspace, with what lies over it. -/
def exportDocument (s : Session) (overlay : Overlay := {}) : Except Failure String :=
  match s.requireWorkspace with
  | .error f => .error (.fault f)
  | .ok workspace =>
    match Overlaid.document { workspace, overlay } with
    | .ok text => .ok text
    | .error a => .error (.accident a)

/-- Puts every element on the grid; none if there are no elements. -/
def arrange? (s : Session) : Except Fault (Option Session) := do
  let ws ← s.requireWorkspace
  return if ws.elements.isEmpty then none else some (s.commit { ws with elements := Grid.arrange ws.elements })

end Session

end Blueprint
