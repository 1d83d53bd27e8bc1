/-
  Blueprint.Layout.Grid — the grid on which elements without a position are placed (`grid_position`,
  `grid_layout`).

  The cells are counted from zero, row by row. A cell's row and column are the quotient, rounded down,
  and the remainder of its index by the number of columns, so indices and columns may be negative or
  lie between whole numbers; without columns there are no cells.
-/

import Blueprint.Model.Workspace
import Blueprint.Number.Quotient

namespace Blueprint

structure Grid where
  padding : Scalar := 40
  cellWidth : Scalar := 220
  cellHeight : Scalar := 140
  columnGap : Scalar := 60
  rowGap : Scalar := 80
  columns : Scalar := 4
  deriving DecidableEq, Repr

namespace Grid

/-- The corner of a cell, for a grid that has columns. -/
def cell (g : Grid) (index : Scalar) : Position :=
  { x := (g.padding + index.remainder g.columns * (g.cellWidth + g.columnGap)).toReal
    y := (g.padding + index.quotient g.columns * (g.cellHeight + g.rowGap)).toReal }

/-- Puts elements on the cells of the usual grid in their order. -/
def arrange (elements : List Element) : List Element :=
  elements.mapIdx fun i e => { e with position := ({} : Grid).cell (.int i) }

end Grid

/-- A cell of the usual grid. -/
def gridCell (index : Int) : Position := ({} : Grid).cell (.int index)

end Blueprint
