/-
  Blueprint.Proofs.Dsl.Handled — what a builder collects from the statements that it handles.

  A statement is handled unless it closes a block or stands where statements are skipped. What it adds to
  the lists of a builder depends on the builder around it: the enclosing elements, and the ids drawn so
  far. Each list of a builder is what the handled statements added to it, one after the other; only the
  name of a view may be replaced by a title.

  Proved: what one statement leaves behind (`collects_handle`); from it the lists of a builder after any
  statements (`elements_feedAll`, `relationships_feedAll`, `views_feedAll`, `warnings_feedAll`), and what
  its identifiers stand for (`resolve_feedAll`).
-/

import Blueprint.Proofs.Dsl.Declared
import Mathlib.Data.List.Induction

namespace Blueprint.Dsl

open Text

/-- A statement that was handled, and the builder around it. -/
structure Told where
  around : Builder
  statement : Statement
  deriving DecidableEq, Repr

namespace Told

def clause (t : Told) : Clause := classify t.statement t.around.inViews

/-! ## What one statement adds -/

/-- The id that is drawn for what is declared. -/
def newId (ids : IdSource) (t : Told) : String := ids t.around.drawn

/-- An element that is given no identifier is entered under one that is made of its id. -/
def bareOf (ids : IdSource) (t : Told) (identifier : Option (List Char)) : String :=
  match identifier with
  | some cs => String.ofList cs
  | none => "_" ++ Builder.firstChars 8 (t.newId ids)

/-- The identifiers that an element is entered under, bare and qualified. -/
def names? (ids : IdSource) (t : Told) : Option (String × String) :=
  match t.clause with
  | .element identifier _ _ _ => some (t.bareOf ids identifier, t.around.qualify (t.bareOf ids identifier))
  | _ => none

/-- An element is declared that can be referred to in this way. -/
def isCalled (ids : IdSource) (reference : String) (t : Told) : Bool :=
  (t.names? ids).any fun (bare, qualified) => reference == bare || reference == qualified

def isDeclaration (t : Told) : Bool :=
  match t.clause with
  | .element _ _ _ _ | .group _ => true
  | _ => false

/-- The element or group that is declared. -/
def element? (ids : IdSource) (t : Told) : Option PendingElement :=
  let id := t.newId ids
  match t.clause with
  | .element identifier kind name rest =>
    let args := quotedArguments rest
    let tags := Builder.tagsAt args (if kind.hasTechnology then 2 else 1)
    some
      { id, identifier := t.around.qualify (t.bareOf ids identifier), kind, name := String.ofList (Text.unescape name)
        description := args[0]?.getD "", technology := if kind.hasTechnology then Builder.optional args 1 else none
        parentId := t.around.parentId, tags := tags.filter (· != externalTag)
        isExternal := tags.contains externalTag }
  | .group name =>
    some
      { id, identifier := "group_" ++ Builder.firstChars 4 id, kind := .group, name := String.ofList name
        parentId := t.around.parentId }
  | _ => none

def isRelationship (t : Told) : Bool :=
  match t.clause with
  | .relationship _ _ _ => true
  | _ => false

/-- The relationship with its ends as references, if it has a source. -/
def relationship? (t : Told) : Option PendingRelationship :=
  match t.clause with
  | .relationship source target rest =>
    let args := quotedArguments rest
    (t.around.sourceOf source).map fun source =>
      { source, target := t.around.targetOf target, description := args[0]?.getD ""
        technology := Builder.optional args 1, tags := Builder.tagsAt args 2, line := t.statement.line }
  | _ => none

def isView (t : Told) : Bool :=
  match t.clause with
  | .view _ _ _ => true
  | _ => false

/-- The view but for its name, which a title may replace. -/
def view? (ids : IdSource) (t : Told) : Option PendingView :=
  match t.clause with
  | .view kind anchor rest =>
    let args := quotedArguments rest
    let key := sanitizeKeyText (args[0]?.getD "")
    some
      { view :=
          { id := t.around.newViewId ids kind, kind, description := args[1]?.getD ""
            key := if key = "" then kind.keyword ++ "-" ++ natText (t.around.views.length + 1) else key }
        anchor := anchor.map String.ofList, line := t.statement.line }
  | _ => none

/-- The warning that a relationship gives at once, for it has no source. -/
def sourceless? (t : Told) : Option String :=
  if t.isRelationship && t.relationship?.isNone then some (Builder.noSourceWarning t.statement.line) else none

end Told

/-- The statements that are handled, in order, each with the builder around it. -/
def handled (ids : IdSource) : Builder → List Statement → List Told
  | _, [] => []
  | b, s :: ss =>
    if s.isClose || b.isSkipping then handled ids (b.feed ids s) ss else ⟨b, s⟩ :: handled ids (b.feed ids s) ss

/-- The id of the last element that can be referred to in this way. -/
def standsFor (ids : IdSource) (ts : List Told) (reference : String) : Option String :=
  (ts.reverse.find? (·.isCalled ids reference)).map (·.newId ids)

/-- A view with its name left out. -/
def PendingView.untitled (p : PendingView) : PendingView := { p with view := { p.view with name := "" } }

/-- Elements, groups, relationships and views are collected. -/
def Clause.isCollected : Clause → Bool
  | .element _ _ _ _ | .group _ | .relationship _ _ _ | .view _ _ _ => true
  | _ => false

namespace Builder

variable {ids : IdSource}

/-! ## From one statement to all -/

/-- A part of the builder that blocks have no say in is only changed by the statements that are handled, one
by one. -/
theorem part_feedAll {α : Type} (part : Builder → α) (add : α → Told → α)
    (framed : ∀ b stack, part { b with stack } = part b)
    (step : ∀ t : Told, part (t.around.handle ids t.statement t.clause) = add (part t.around) t)
    (b : Builder) (ss : List Statement) : part (b.feedAll ids ss) = (handled ids b ss).foldl add (part b) := by
  induction ss generalizing b with
  | nil => rfl
  | cons s ss ih =>
    show part ((b.feed ids s).feedAll ids ss) = _
    rw [ih, handled]
    cases close : s.isClose with
    | true =>
      have same : part (b.feed ids s) = part b := by rw [feed_close ids b close]; exact framed b _
      rw [same, Bool.true_or, if_pos rfl]
    | false =>
      cases skipping : b.isSkipping with
      | true =>
        have same : part (b.feed ids s) = part b := by
          rw [feed_skipped ids close skipping, pushIf]
          split
          · exact framed b _
          · rfl
        rw [same, Bool.or_true, if_pos rfl]
      | false =>
        have more : part (b.feed ids s) = add (part b) ⟨b, s⟩ := by
          rw [feed_handled ids close skipping]
          exact step ⟨b, s⟩
        rw [more, Bool.or_false, if_neg Bool.false_ne_true, List.foldl_cons]

theorem list_feedAll {α : Type} (list : Builder → List α) {part : Told → Option α}
    (framed : ∀ b stack, list { b with stack } = list b)
    (step : ∀ t : Told, list (t.around.handle ids t.statement t.clause) = list t.around ++ (part t).toList)
    (b : Builder) (ss : List Statement) : list (b.feedAll ids ss) = list b ++ (handled ids b ss).filterMap part := by
  rw [part_feedAll list (fun xs t => xs ++ (part t).toList) framed step]
  generalize list b = xs
  induction handled ids b ss generalizing xs with
  | nil => simp
  | cons t ts ih =>
    rw [List.foldl_cons, ih, List.filterMap_cons, List.append_assoc]
    cases part t <;> rfl

/-! ## What one statement leaves behind -/

/-- An element is entered under its identifiers, and nothing else is. -/
def enter (ids : IdSource) (table : IdentifierTable) (t : Told) : IdentifierTable :=
  match t.names? ids with
  | some (bare, qualified) => table.register bare qualified (t.newId ids)
  | none => table

/-- The builder has collected what the statement adds, and nothing else. -/
structure Collects (ids : IdSource) (t : Told) (c : Builder) : Prop where
  table : c.table = enter ids t.around.table t
  elements : c.elements = t.around.elements ++ (t.element? ids).toList
  relationships : c.relationships = t.around.relationships ++ t.relationship?.toList
  views : c.views.map (·.untitled) = t.around.views.map (·.untitled) ++ (t.view? ids).toList
  warnings : c.warnings = t.around.warnings ++ t.sourceless?.toList

/-- A statement that adds nothing leaves all lists as they are, but for the name of a view. -/
theorem Collects.of_same {t : Told} {c : Builder} (quiet : t.clause.isCollected = false)
    (table : c.table = t.around.table) (elements : c.elements = t.around.elements)
    (relationships : c.relationships = t.around.relationships)
    (views : c.views.map (·.untitled) = t.around.views.map (·.untitled)) (warnings : c.warnings = t.around.warnings) :
    Collects ids t c := by
  have nothing : t.names? ids = none ∧ t.element? ids = none ∧ t.relationship? = none ∧ t.view? ids = none ∧
      t.sourceless? = none := by
    unfold Told.names? Told.element? Told.relationship? Told.view? Told.sourceless? Told.isRelationship
    cases hc : t.clause <;> simp_all [Clause.isCollected]
  obtain ⟨noNames, noElement, noRelationship, noView, noWarning⟩ := nothing
  refine ⟨?_, ?_, ?_, ?_, ?_⟩
  · rw [table, enter, noNames]
  · rw [elements, noElement, Option.toList_none, List.append_nil]
  · rw [relationships, noRelationship, Option.toList_none, List.append_nil]
  · rw [views, noView, Option.toList_none, List.append_nil]
  · rw [warnings, noWarning, Option.toList_none, List.append_nil]

theorem collects_handle (ids : IdSource) (t : Told) : Collects ids t (t.around.handle ids t.statement t.clause) := by
  have same : ∀ {c : Builder}, t.clause.isCollected = false → c.table = t.around.table →
      c.elements = t.around.elements → c.relationships = t.around.relationships → c.views = t.around.views →
      c.warnings = t.around.warnings → Collects ids t c := fun quiet table elements relationships views warnings =>
    .of_same quiet table elements relationships (congrArg _ views) warnings
  cases hc : t.clause with
  | element identifier kind name rest =>
    refine ⟨?_, ?_, ?_, ?_, ?_⟩
    · unfold enter Told.names?
      rw [hc]
      rfl
    · unfold Told.element?
      rw [hc]
      rfl
    all_goals
      simp [handle, onElement, Told.relationship?, Told.view?, Told.sourceless?, Told.isRelationship, hc]
  | group name =>
    constructor <;> simp [handle, onGroup, enter, Told.names?, Told.element?, Told.relationship?, Told.view?,
      Told.sourceless?, Told.isRelationship, Told.newId, hc]
  | relationship source target rest =>
    cases hs : t.around.sourceOf source <;> constructor <;>
      simp [handle, onRelationship, warn, enter, Told.names?, Told.element?, Told.relationship?, Told.view?,
        Told.sourceless?, Told.isRelationship, hc, hs]
  | view kind anchor rest =>
    constructor <;> simp [handle, onView, enter, Told.names?, Told.element?, Told.relationship?, Told.view?,
      Told.sourceless?, Told.isRelationship, PendingView.untitled, newViewId, hc]
  | workspace rest =>
    show Collects ids t (t.around.onWorkspace t.statement.opens rest)
    unfold onWorkspace pushIf push
    cases t.around.heading <;> cases t.statement.opens <;> exact same (by rw [hc]; rfl) rfl rfl rfl rfl rfl
  | position x y =>
    show Collects ids t (t.around.onPosition x y)
    unfold onPosition
    split <;> exact same (by rw [hc]; rfl) rfl rfl rfl rfl rfl
  | viewTitle title =>
    show Collects ids t (t.around.onViewTitle title)
    unfold onViewTitle
    split
    · exact .of_same (by rw [hc]; rfl) rfl rfl rfl (map_renameLast (fun _ _ => rfl) _ _) rfl
    · exact same (by rw [hc]; rfl) rfl rfl rfl rfl rfl
  | unknown =>
    show Collects ids t (t.around.pushIf t.statement.opens .block)
    unfold pushIf push
    split <;> exact same (by rw [hc]; rfl) rfl rfl rfl rfl rfl
  | _ => exact same (by rw [hc]; rfl) rfl rfl rfl rfl rfl

/-! ## What all statements leave behind -/

theorem elements_feedAll (ids : IdSource) (b : Builder) (ss : List Statement) :
    (b.feedAll ids ss).elements = b.elements ++ (handled ids b ss).filterMap (·.element? ids) :=
  list_feedAll (·.elements) (fun _ _ => rfl) (fun t => (collects_handle ids t).elements) b ss

theorem relationships_feedAll (ids : IdSource) (b : Builder) (ss : List Statement) :
    (b.feedAll ids ss).relationships = b.relationships ++ (handled ids b ss).filterMap (·.relationship?) :=
  list_feedAll (·.relationships) (fun _ _ => rfl) (fun t => (collects_handle ids t).relationships) b ss

theorem views_feedAll (ids : IdSource) (b : Builder) (ss : List Statement) :
    (b.feedAll ids ss).views.map (·.untitled) =
      b.views.map (·.untitled) ++ (handled ids b ss).filterMap (·.view? ids) :=
  list_feedAll (·.views.map (·.untitled)) (fun _ _ => rfl) (fun t => (collects_handle ids t).views) b ss

theorem warnings_feedAll (ids : IdSource) (b : Builder) (ss : List Statement) :
    (b.feedAll ids ss).warnings = b.warnings ++ (handled ids b ss).filterMap (·.sourceless?) :=
  list_feedAll (·.warnings) (fun _ _ => rfl) (fun t => (collects_handle ids t).warnings) b ss

theorem table_feedAll (ids : IdSource) (b : Builder) (ss : List Statement) :
    (b.feedAll ids ss).table = (handled ids b ss).foldl (enter ids) b.table :=
  part_feedAll (·.table) (enter ids) (fun _ _ => rfl) (fun t => (collects_handle ids t).table) b ss

/-! ## Identifiers -/

theorem standsFor_concat (ids : IdSource) (ts : List Told) (t : Told) (reference : String) :
    standsFor ids (ts ++ [t]) reference =
      if t.isCalled ids reference then some (t.newId ids) else standsFor ids ts reference := by
  unfold standsFor
  rw [List.reverse_append, List.reverse_singleton, List.singleton_append, List.find?_cons]
  cases t.isCalled ids reference <;> rfl

theorem resolve_enter (ids : IdSource) (table : IdentifierTable) (t : Told) (reference : String) :
    (enter ids table t).resolve reference =
      if t.isCalled ids reference then some (t.newId ids) else table.resolve reference := by
  unfold enter Told.isCalled
  cases t.names? ids with
  | none => rfl
  | some names => simp [IdentifierTable.resolve_register]

/-- A reference stands for the last element that was entered under it. -/
theorem resolve_feedAll (ids : IdSource) (drawn : Nat) (ss : List Statement) (reference : String) :
    (feedAll ids { drawn } ss).table.resolve reference = standsFor ids (handled ids { drawn } ss) reference := by
  rw [table_feedAll]
  induction handled ids { drawn } ss using List.reverseRecOn with
  | nil => rfl
  | append_singleton ts t ih =>
    rw [List.foldl_append, List.foldl_cons, List.foldl_nil, standsFor_concat, resolve_enter, ih]

end Builder

end Blueprint.Dsl
