/-
  Blueprint.Dsl.Outline — a document as lines and blocks (the lines that `DSLGenerator` puts together,
  with their indents).

  A block is written as its header with an opening brace, its contents one step further in, and a line
  with the closing brace. A gap is an empty line.
-/

namespace Blueprint.Dsl

inductive Outline where
  | gap
  | line (text : List Char)
  | block (header : List Char) (contents : List Outline)
  deriving Repr

namespace Outline

/-- A text some steps further in. -/
def indented (step : List Char) (depth : Nat) (text : List Char) : List Char :=
  (List.replicate depth step).flatten ++ text

mutual

/-- The written lines, at a depth. -/
def lines (step : List Char) (depth : Nat) : Outline → List (List Char)
  | gap => [[]]
  | line text => [indented step depth text]
  | block header contents =>
    indented step depth (header ++ [' ', '{']) ::
      (linesOf step (depth + 1) contents ++ [indented step depth ['}']])

def linesOf (step : List Char) (depth : Nat) : List Outline → List (List Char)
  | [] => []
  | o :: os => o.lines step depth ++ linesOf step depth os

end

/-- The written text, its lines separated by line feeds. -/
def text (step : List Char) (o : Outline) : List Char := ['\n'].intercalate (o.lines step 0)

end Outline

end Blueprint.Dsl
