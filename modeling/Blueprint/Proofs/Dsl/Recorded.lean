/-
  Blueprint.Proofs.Dsl.Recorded — the positions that a document gives to its elements.

  Among the views a statement may record a position, for the identifier that it names or for the one that its
  block is about. An element has the position that is found for it, and else a cell of the grid, by its index.
  The numerals of a document may have any number of digits, and some are too large for a number.

  Proved: the positions of a builder are those that the handled statements recorded (`positions_feedAll`); if
  all coordinates in a document are numbers, and its elements not too many, the elements that are read stand
  on numbers (`finite_of_parse`).
-/

import Blueprint.Proofs.Dsl.Handled
import Blueprint.Proofs.Dsl.Soundness
import Blueprint.Proofs.Dsl.ViewSection
import Blueprint.Proofs.Layout.Finite

namespace Blueprint.Dsl

/-! ## What is recorded -/

/-- The position that a statement records, and the identifier that it is recorded for. -/
def Told.recorded? (t : Told) : Option (String × Position) :=
  match t.clause with
  | .elementPosition identifier x y => some (String.ofList identifier, ⟨x.value, y.value⟩)
  | .position x y =>
    match t.around.stack with
    | .viewElement identifier :: _ => some (identifier, ⟨x.value, y.value⟩)
    | _ => none
  | _ => none

/-- The positions with the one that a statement records. -/
def recordTold (ps : Positions) (t : Told) : Positions :=
  match t.recorded? with
  | some (identifier, p) => ps.record t.around.table identifier p
  | none => ps

variable {ids : IdSource} {b : Builder} {ss : List Statement}

theorem positions_handle (ids : IdSource) (t : Told) :
    (t.around.handle ids t.statement t.clause).positions = recordTold t.around.positions t := by
  unfold recordTold Told.recorded?
  cases t.clause with
  | workspace rest =>
    show (t.around.onWorkspace t.statement.opens rest).positions = _
    unfold Builder.onWorkspace Builder.pushIf Builder.push
    cases t.around.heading <;> cases t.statement.opens <;> rfl
  | relationship source target rest =>
    show (t.around.onRelationship t.statement.line source target rest).positions = _
    unfold Builder.onRelationship
    split <;> rfl
  | position x y =>
    show (t.around.onPosition x y).positions = _
    unfold Builder.onPosition
    split <;> simp_all [Builder.recordPosition]
  | viewTitle title =>
    show (t.around.onViewTitle title).positions = _
    unfold Builder.onViewTitle
    split <;> rfl
  | unknown =>
    show (t.around.pushIf t.statement.opens .block).positions = _
    unfold Builder.pushIf Builder.push
    split <;> rfl
  | _ => rfl

theorem positions_feedAll (ids : IdSource) (b : Builder) (ss : List Statement) :
    (b.feedAll ids ss).positions = (handled ids b ss).foldl recordTold b.positions :=
  Builder.part_feedAll (·.positions) recordTold (fun _ _ => rfl) (positions_handle ids) b ss

theorem statements_handled (ids : IdSource) (b : Builder) (ss : List Statement) :
    ((handled ids b ss).map (·.statement)).Sublist ss := by
  induction ss generalizing b with
  | nil => exact .slnil
  | cons s ss ih =>
    rw [handled]
    split
    · exact (ih _).cons s
    · exact (ih _).cons_cons s

/-! ## Numbers -/

/-- The coordinates of a clause are numbers. -/
def Clause.isFinite : Clause → Bool
  | .elementPosition _ x y | .position x y => x.value.isFinite && y.value.isFinite
  | _ => true

/-- All coordinates in a document are numbers, and the cells for its elements can be counted with numbers. -/
structure HasNumbers (text : String) : Prop where
  given : ∀ s ∈ tokenize text, ∀ inViews, (classify s inViews).isFinite = true
  few : (tokenize text).length ≤ cellBound

theorem isFinite_of_recorded {t : Told} (finite : t.clause.isFinite = true) {identifier : String} {p : Position}
    (h : t.recorded? = some (identifier, p)) : p.IsFinite := by
  unfold Told.recorded? at h
  cases hc : t.clause with
  | elementPosition name x y =>
    rw [hc] at h finite
    cases h
    exact Bool.and_eq_true_iff.1 finite
  | position x y =>
    rw [hc] at h finite
    dsimp only at h
    split at h <;> cases h
    exact Bool.and_eq_true_iff.1 finite
  | _ => rw [hc] at h; cases h

theorem allFinite_recordTolds {ts : List Told} (finite : ∀ t ∈ ts, t.clause.isFinite = true) {ps : Positions}
    (h : AllFinite ps) : AllFinite (ts.foldl recordTold ps) := by
  induction ts generalizing ps with
  | nil => exact h
  | cons t ts ih =>
    refine ih (fun u hu => finite u (List.mem_cons_of_mem _ hu)) ?_
    unfold recordTold
    split
    · next recorded => exact h.record (isFinite_of_recorded (finite t List.mem_cons_self) recorded) _ _
    · exact h

/-- No more elements are declared than there are statements. -/
theorem length_elements_le (ids : IdSource) (drawn : Nat) (ss : List Statement) :
    (Builder.feedAll ids { drawn } ss).elements.length ≤ ss.length :=
  calc (Builder.feedAll ids { drawn } ss).elements.length
      = ((handled ids { drawn } ss).filterMap (·.element? ids)).length := by
        rw [Builder.elements_feedAll]
        rfl
    _ ≤ (handled ids { drawn } ss).length := List.length_filterMap_le _ _
    _ = ((handled ids { drawn } ss).map (·.statement)).length := (List.length_map _).symm
    _ ≤ ss.length := (statements_handled ids _ ss).length_le

theorem finite_of_parse {drawn : Nat} {text : String} {p : Parsed} (numbers : HasNumbers text)
    (h : parse ids drawn text = .ok p) : HasFinitePositions p.workspace.elements := by
  rw [eq_build_of_parse h, Builder.build_elements]
  have recorded : AllFinite (Builder.feedAll ids { drawn } (tokenize text)).positions := by
    rw [positions_feedAll]
    refine allFinite_recordTolds (fun t ht => ?_) AllFinite.nothing
    have mem := (statements_handled ids { drawn } (tokenize text)).subset (List.mem_map_of_mem ht)
    exact numbers.given t.statement mem t.around.inViews
  have few := Nat.le_trans (length_elements_le ids drawn (tokenize text)) numbers.few
  intro e he
  obtain ⟨i, hi, rfl⟩ := List.mem_mapIdx.1 he
  exact isFinite_resolve recorded _ (Nat.le_trans (Nat.le_of_lt hi) few)

end Blueprint.Dsl
