/-
  Blueprint.Layout.Place — places that are asked for (`grid_position` and `grid_layout`, whatever their
  arguments are).

  Whoever asks for a cell may name any values, and they are reckoned with as far as they have sums and
  can be taken several times. There is no place without columns, where an integer that is too large
  meets a floating-point number, or where a coordinate is no number or too large an integer; everywhere
  else it is the grid's.

  Proved: a place that is given is the cell's corner (`eq_cell_of_place`).
-/

import Blueprint.Json.Sum
import Blueprint.Layout.Positions
import Blueprint.Schema.Model

namespace Blueprint

/-- The grid that somebody asks for. -/
structure GridRequest where
  padding : Json
  cellWidth : Json
  cellHeight : Json
  columnGap : Json
  rowGap : Json
  columns : Json
  deriving Repr

namespace GridRequest

def ofGrid (g : Grid) : GridRequest :=
  { padding := .num g.padding, cellWidth := .num g.cellWidth, cellHeight := .num g.cellHeight
    columnGap := .num g.columnGap, rowGap := .num g.rowGap, columns := .num g.columns }

/-- The request with a value under its name. -/
def set (r : GridRequest) (name : String) (value : Json) : Except Accident GridRequest :=
  match name with
  | "padding" => .ok { r with padding := value }
  | "cell_width" => .ok { r with cellWidth := value }
  | "cell_height" => .ok { r with cellHeight := value }
  | "col_gap" => .ok { r with columnGap := value }
  | "row_gap" => .ok { r with rowGap := value }
  | "columns" => .ok { r with columns := value }
  | _ => .error .wrongArguments

/-- The usual grid but for the values that are named. -/
def ofFields (fields : Json.Fields) : Except Accident GridRequest :=
  fields.foldlM (fun r f => r.set f.1 f.2) (ofGrid {})

/-- The coordinate behind a number of cells, each with a gap. -/
def coordinate (padding : Json) (count : Scalar) (length gap : Json) : Except Accident Json := do
  padding.sum (← Json.times count (← length.sum gap))

/-- The coordinates of a cell's corner. -/
def corner (r : GridRequest) (index : Json) : Except Accident (Json × Json) :=
  match index.number?, r.columns.number? with
  | some i, some columns =>
    if !i.areJoinable columns then .error .tooLargeNumber
    else if columns.isZero then .error .noColumns
    else do
      let x ← coordinate r.padding (i.remainder columns) r.cellWidth r.columnGap
      let y ← coordinate r.padding (i.quotient columns) r.cellHeight r.rowGap
      return (x, y)
  | _, _ => .error .wrongArguments

def place (r : GridRequest) (index : Json) : Except Failure Position :=
  match r.corner index with
  | .ok (x, y) => (Position.ofFields [("x", x), ("y", y)]).toExcept
  | .error a => .error (.accident a)

end GridRequest

namespace Grid

/-- The corner of a cell. -/
def place (g : Grid) (index : Scalar) : Except Failure Position := (GridRequest.ofGrid g).place (.num index)

/-- Puts elements on the cells of a usual grid in their order, if there is a place for each. No value
for the columns, or one that says nothing, means the usual number of them. -/
def placeAll (columns : Json) (elements : List Element) : Except Failure (List Element) :=
  let usual := GridRequest.ofGrid {}
  let r := if columns.isVoid then usual else { usual with columns }
  elements.zipIdx.mapM fun (e, i) => (r.place (.nat i)).map fun p => { e with position := p }

end Grid

/-- The recorded position, or the grid cell of an index if there is a place for it. -/
def Positions.place (ps : Positions) (identifier : String) (index : Json) : Except Failure Position :=
  match lookup ps identifier with
  | some p => .ok p
  | none => (GridRequest.ofGrid {}).place index

/-! ## Small facts -/

namespace Grid

theorem eq_of_coordinate {padding count length gap : Scalar} {j : Json}
    (h : GridRequest.coordinate (.num padding) count (.num length) (.num gap) = .ok j) :
    j = .num (padding + count * (length + gap)) := by
  unfold GridRequest.coordinate at h
  cases hs : Json.sum (.num length) (.num gap) with
  | error a => rw [hs] at h; cases h
  | ok step =>
    rw [hs] at h
    obtain rfl := Json.eq_of_sum hs
    cases ht : Json.times count (.num (length + gap)) with
    | error a => simp only [bind, Except.bind, ht] at h; cases h
    | ok offset =>
      simp only [bind, Except.bind, ht] at h
      obtain rfl := Json.eq_of_times ht
      exact Json.eq_of_sum h

theorem eq_of_corner {g : Grid} {index : Scalar} {x y : Json}
    (h : (GridRequest.ofGrid g).corner (.num index) = .ok (x, y)) :
    x = .num (g.padding + index.remainder g.columns * (g.cellWidth + g.columnGap)) ∧
      y = .num (g.padding + index.quotient g.columns * (g.cellHeight + g.rowGap)) := by
  simp only [GridRequest.corner, GridRequest.ofGrid, Json.number?] at h
  split at h
  · cases h
  · split at h
    · cases h
    · cases hx : GridRequest.coordinate (.num g.padding) (index.remainder g.columns) (.num g.cellWidth)
        (.num g.columnGap) with
      | error a => simp only [bind, Except.bind, hx] at h; cases h
      | ok a =>
        cases hy : GridRequest.coordinate (.num g.padding) (index.quotient g.columns) (.num g.cellHeight)
          (.num g.rowGap) with
        | error b => simp only [bind, Except.bind, hx, hy] at h; cases h
        | ok b =>
          simp only [bind, Except.bind, hx, hy, pure, Except.pure] at h
          obtain ⟨rfl, rfl⟩ := Prod.mk.inj (Except.ok.inj h)
          exact ⟨eq_of_coordinate hx, eq_of_coordinate hy⟩

theorem eq_toReal_of_number {n : Scalar} {x : Binary64} (h : Check.number (.num n) = .fits x) : x = n.toReal := by
  cases n with
  | real y =>
    simp only [Check.number, Check.fits.injEq] at h
    exact h.symm
  | int n =>
    simp only [Check.number] at h
    split at h
    · exact (Check.fits.inj h).symm
    · cases h

theorem ofFields_pair (x y : Json) :
    Position.ofFields [("x", x), ("y", y)] =
      Position.mk <$> (Check.number x).within "x" <*> (Check.number y).within "y" := by
  rfl

theorem eq_of_pair {x y : Scalar} {p : Position}
    (h : (Position.ofFields [("x", .num x), ("y", .num y)]).toExcept = .ok p) : p = ⟨x.toReal, y.toReal⟩ := by
  rw [ofFields_pair] at h
  cases hx : Check.number (.num x) with
  | misfits issues =>
    rw [hx] at h
    cases hy : Check.number (.num y) with
    | misfits more => rw [hy] at h; cases h
    | fits b => rw [hy] at h; cases h
  | fits a =>
    rw [hx] at h
    cases hy : Check.number (.num y) with
    | misfits more => rw [hy] at h; cases h
    | fits b =>
      rw [hy] at h
      rw [← eq_toReal_of_number hx, ← eq_toReal_of_number hy]
      exact (Except.ok.inj h).symm

theorem eq_cell_of_place {g : Grid} {index : Scalar} {p : Position} (h : g.place index = .ok p) :
    p = g.cell index := by
  unfold place GridRequest.place at h
  split at h
  · next x y hc =>
    obtain ⟨rfl, rfl⟩ := eq_of_corner hc
    exact eq_of_pair h
  · cases h

end Grid

end Blueprint
