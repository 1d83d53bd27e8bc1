/-
  Blueprint.Layout.Positions — the positions that a document records (`PositionStore`).

  A position is recorded for an identifier, and with it for every qualified name known then that ends
  with that identifier. It is looked for under the very name, then under its last segment, then under
  the first recorded name of which one is a dotted suffix of the other.
-/

import Blueprint.Identifier.Table
import Blueprint.Layout.Grid

namespace Blueprint

/-- The text behind the last dot, if there is a dot. -/
def lastSegment? (s : String) : Option String :=
  if s.toList.contains '.' then some (String.ofList (s.toList.reverse.takeWhile (· != '.')).reverse) else none

abbrev Positions := Dictionary Position

namespace Positions

def record (ps : Positions) (table : IdentifierTable) (identifier : String) (p : Position) : Positions :=
  (table.namesEndingWith identifier).foldl (fun ps name => Dictionary.insert ps name p)
    (Dictionary.insert ps identifier p)

def lookup (ps : Positions) (identifier : String) : Option Position :=
  (Dictionary.find? ps identifier).or <|
    ((lastSegment? identifier).bind (Dictionary.find? ps)).or <|
      (ps.entries.find? fun e => isDottedSuffix e.1 identifier || isDottedSuffix identifier e.1).map (·.2)

/-- The recorded position, or the grid cell of an index. -/
def resolve (ps : Positions) (identifier : String) (index : Int) : Position :=
  (lookup ps identifier).getD (gridCell index)

end Positions

end Blueprint
