/-
  Blueprint.Proofs.Dsl.LineNumbers — what depends on the lines on which statements begin.

  A statement carries the number of its line, relationships and views that are kept carry it on, and in the end
  it is what a warning begins with. Nothing else looks at it.

  Proved: statements with other line numbers lead to the same builder with other line numbers
  (`feedAll_renumbered`), and so to the same workspace; each warning has the number of its line moved as the
  statements were, and is else the same (`build_renumbered`).
-/

import Blueprint.Dsl.Document
import Mathlib.Data.List.Forall2

namespace Blueprint.Dsl

open Text

variable {f : Nat → Nat}

/-! ## Numbers moved -/

def Statement.renumbered (f : Nat → Nat) (s : Statement) : Statement := { s with line := f s.line }

def PendingRelationship.renumbered (f : Nat → Nat) (p : PendingRelationship) : PendingRelationship :=
  { p with line := f p.line }

def PendingView.renumbered (f : Nat → Nat) (p : PendingView) : PendingView := { p with line := f p.line }

/-- A warning about a line. The colon ends the number, so the line is not read off in two ways. -/
def warningAt (line : Nat) (message : String) : String := "Line " ++ natText line ++ (": " ++ message)

/-- The same warning about the line with the other number. -/
def IsRenumbered (f : Nat → Nat) (warning other : String) : Prop :=
  ∃ line message, warning = warningAt line message ∧ other = warningAt (f line) message

abbrev AreRenumbered (f : Nat → Nat) : List String → List String → Prop := List.Forall₂ (IsRenumbered f)

theorem isRenumbered_noSource (f : Nat → Nat) (line : Nat) :
    IsRenumbered f (Builder.noSourceWarning line) (Builder.noSourceWarning (f line)) :=
  ⟨line, "relationship without a source outside an element block", rfl, rfl⟩

theorem isRenumbered_unresolvedEnds (f : Nat → Nat) (p : PendingRelationship) :
    IsRenumbered f (Builder.unresolvedEnds p) (Builder.unresolvedEnds (p.renumbered f)) := by
  have text : ": could not resolve relationship elements: " = ": " ++ "could not resolve relationship elements: " := rfl
  refine ⟨p.line, "could not resolve relationship elements: " ++ p.source ++ " -> " ++ p.target, ?_, ?_⟩
  · simp only [Builder.unresolvedEnds, warningAt, text, String.append_assoc]
  · simp only [Builder.unresolvedEnds, warningAt, text, String.append_assoc, PendingRelationship.renumbered]

theorem isRenumbered_unresolvedAnchor (f : Nat → Nat) (p : PendingView) (anchor : String) :
    IsRenumbered f (Builder.unresolvedAnchor p anchor) (Builder.unresolvedAnchor (p.renumbered f) anchor) := by
  have text : ": could not resolve " = ": " ++ "could not resolve " := rfl
  refine ⟨p.line, "could not resolve " ++ p.view.kind.keyword ++ " view anchor: " ++ anchor, ?_, ?_⟩
  · simp only [Builder.unresolvedAnchor, warningAt, text, String.append_assoc]
  · simp only [Builder.unresolvedAnchor, warningAt, text, String.append_assoc, PendingView.renumbered]

theorem AreRenumbered.append {ws ws' us us' : List String} (h : AreRenumbered f ws ws') (h' : AreRenumbered f us us') :
    AreRenumbered f (ws ++ us) (ws' ++ us') := List.rel_append h h'

theorem AreRenumbered.concat {ws ws' : List String} {w w' : String} (h : AreRenumbered f ws ws')
    (h' : IsRenumbered f w w') : AreRenumbered f (ws ++ [w]) (ws' ++ [w']) := h.append (.cons h' .nil)

namespace Builder

variable {ids : IdSource} {b : Builder} {s : Statement} {ws : List String}

/-- The builder with other numbers of lines, and the warnings that it has then. -/
def renumbered (f : Nat → Nat) (b : Builder) (warnings : List String) : Builder :=
  { b with
    relationships := b.relationships.map (·.renumbered f)
    views := b.views.map (·.renumbered f)
    warnings }

/-- Two builders that differ in numbers of lines only. -/
def Renumbers (f : Nat → Nat) (b c : Builder) : Prop :=
  ∃ warnings, c = b.renumbered f warnings ∧ AreRenumbered f b.warnings warnings

theorem renameLast_renumbered (f : Nat → Nat) (name : String) (views : List PendingView) :
    renameLast name (views.map (·.renumbered f)) = (renameLast name views).map (·.renumbered f) := by
  induction views with
  | nil => rfl
  | cons v vs ih =>
    cases vs with
    | nil => rfl
    | cons w ws => exact congrArg (v.renumbered f :: ·) ih

theorem onRelationship_renumbered (h : AreRenumbered f b.warnings ws) (line : Nat) (source : Option (List Char))
    (target rest : List Char) : Renumbers f (b.onRelationship line source target rest)
      ((b.renumbered f ws).onRelationship (f line) source target rest) := by
  have frames : (b.renumbered f ws).sourceOf source = b.sourceOf source := by cases source <;> rfl
  unfold onRelationship
  rw [frames]
  cases b.sourceOf source with
  | none => exact ⟨ws ++ [noSourceWarning (f line)], rfl, h.concat (isRenumbered_noSource f line)⟩
  | some sender =>
    refine ⟨ws, ?_, h⟩
    simp only [renumbered, List.map_append, List.map_singleton]
    rfl

theorem onView_renumbered (ids : IdSource) (h : AreRenumbered f b.warnings ws) (opens : Bool) (line : Nat)
    (kind : ViewKind) (anchor : Option (List Char)) (rest : List Char) :
    Renumbers f (b.onView ids opens line kind anchor rest)
      ((b.renumbered f ws).onView ids opens (f line) kind anchor rest) := by
  have count : (b.renumbered f ws).views.length = b.views.length := List.length_map _
  have roots : (b.renumbered f ws).views.any (·.view.id == landscapeId) = b.views.any (·.view.id == landscapeId) :=
    List.any_map
  refine ⟨ws, ?_, h⟩
  unfold onView
  rw [count, roots]
  simp only [renumbered, List.map_append, List.map_singleton]
  rfl

/-- What a builder makes of a statement, it makes of it with another line number. -/
theorem handle_renumbered (ids : IdSource) (h : AreRenumbered f b.warnings ws) (s : Statement) (clause : Clause) :
    Renumbers f (b.handle ids s clause) ((b.renumbered f ws).handle ids (s.renumbered f) clause) := by
  obtain ⟨table, positions, elements, relationships, views, warnings, heading, stack, drawn⟩ := b
  cases clause with
  | relationship source target rest => exact onRelationship_renumbered h s.line source target rest
  | view kind anchor rest => exact onView_renumbered ids h s.opens s.line kind anchor rest
  | workspace rest =>
    show Renumbers f (onWorkspace _ s.opens rest) (onWorkspace _ s.opens rest)
    cases heading <;> cases s.opens <;> exact ⟨ws, rfl, h⟩
  | position x y =>
    cases stack with
    | nil => exact ⟨ws, rfl, h⟩
    | cons top below => cases top <;> exact ⟨ws, rfl, h⟩
  | viewTitle title =>
    cases stack with
    | nil => exact ⟨ws, rfl, h⟩
    | cons top below =>
      cases top with
      | view =>
        refine ⟨ws, ?_, h⟩
        simp only [handle, onViewTitle, renumbered, renameLast_renumbered]
      | _ => exact ⟨ws, rfl, h⟩
  | unknown =>
    show Renumbers f (pushIf _ s.opens .block) (pushIf _ s.opens .block)
    cases s.opens <;> exact ⟨ws, rfl, h⟩
  | _ => exact ⟨ws, rfl, h⟩

theorem feed_renumbered (ids : IdSource) {c : Builder} (h : Renumbers f b c) (s : Statement) :
    Renumbers f (b.feed ids s) (c.feed ids (s.renumbered f)) := by
  obtain ⟨ws, rfl, related⟩ := h
  cases close : s.isClose with
  | true =>
    have other : (s.renumbered f).isClose = true := close
    rw [feed_close ids b close, feed_close ids _ other]
    exact ⟨ws, rfl, related⟩
  | false =>
    have other : (s.renumbered f).isClose = false := close
    cases skipping : b.isSkipping with
    | true =>
      have skips : (b.renumbered f ws).isSkipping = true := skipping
      rw [feed_skipped ids close skipping, feed_skipped ids other skips]
      show Renumbers f (pushIf _ s.opens .block) (pushIf _ s.opens .block)
      cases s.opens <;> exact ⟨ws, rfl, related⟩
    | false =>
      have reads : (b.renumbered f ws).isSkipping = false := skipping
      rw [feed_handled ids close skipping, feed_handled ids other reads]
      exact handle_renumbered ids related s _

theorem feedAll_renumbered (ids : IdSource) {c : Builder} (h : Renumbers f b c) (ss : List Statement) :
    Renumbers f (b.feedAll ids ss) (c.feedAll ids (ss.map (·.renumbered f))) := by
  induction ss generalizing b c with
  | nil => exact h
  | cons s ss ih => exact ih (feed_renumbered ids h s)

/-! ## What is resolved in the end -/

theorem resolveRelationships_renumbered (ids : IdSource) (b : Builder) (ws : List String) (n : Nat)
    (ps : List PendingRelationship) :
    let resolved := b.resolveRelationships ids n ps
    let others := (b.renumbered f ws).resolveRelationships ids n (ps.map (·.renumbered f))
    others.1 = resolved.1 ∧ AreRenumbered f resolved.2.1 others.2.1 ∧ others.2.2 = resolved.2.2 := by
  induction ps generalizing n with
  | nil => exact ⟨rfl, .nil, rfl⟩
  | cons p ps ih =>
    have ends : (b.renumbered f ws).endsOf? (p.renumbered f) = b.endsOf? p := rfl
    rw [List.map_cons, resolveRelationships, resolveRelationships, ends]
    cases b.endsOf? p with
    | none =>
      obtain ⟨same, related, drawn⟩ := ih n
      exact ⟨same, .cons (isRenumbered_unresolvedEnds f p) related, drawn⟩
    | some found =>
      obtain ⟨same, related, drawn⟩ := ih (n + 1)
      exact ⟨congrArg (_ :: ·) same, related, drawn⟩

/-- Whether a view resolves does not depend on its line; if it does not, the warning is about the other line. -/
theorem resolveView_renumbered (b : Builder) (ws : List String) (elements : List Element) (p : PendingView) :
    (∃ v, b.resolveView elements p = .ok v ∧ (b.renumbered f ws).resolveView elements (p.renumbered f) = .ok v) ∨
      ∃ w w', b.resolveView elements p = .error w ∧
        (b.renumbered f ws).resolveView elements (p.renumbered f) = .error w' ∧ IsRenumbered f w w' := by
  obtain ⟨view, anchor, line⟩ := p
  cases anchor with
  | none => exact .inl ⟨view, rfl, rfl⟩
  | some anchor =>
    by_cases deployment : view.kind = .deployment
    · simp only [resolveView, renumbered, PendingView.renumbered, deployment, if_true]
      split <;> exact .inl ⟨_, rfl, rfl⟩
    · simp only [resolveView, renumbered, PendingView.renumbered, deployment, if_false]
      cases (if anchor = "*" then none else b.table.resolve anchor) with
      | none => exact .inr ⟨_, _, rfl, rfl, isRenumbered_unresolvedAnchor f ⟨view, some anchor, line⟩ anchor⟩
      | some id => exact .inl ⟨_, rfl, rfl⟩

theorem resolveViews_renumbered (b : Builder) (ws : List String) (elements : List Element) (ps : List PendingView) :
    let resolved := b.resolveViews elements ps
    let others := (b.renumbered f ws).resolveViews elements (ps.map (·.renumbered f))
    others.1 = resolved.1 ∧ AreRenumbered f resolved.2 others.2 := by
  induction ps with
  | nil => exact ⟨rfl, .nil⟩
  | cons p ps ih =>
    obtain ⟨same, related⟩ := ih
    rw [List.map_cons, resolveViews, resolveViews]
    rcases resolveView_renumbered b ws elements p with ⟨v, one, other⟩ | ⟨w, w', one, other, moved⟩
    · rw [one, other]
      exact ⟨congrArg (v :: ·) same, related⟩
    · rw [one, other]
      exact ⟨same, .cons moved related⟩

/-- The same workspace is built, and each warning has the number of its line moved. -/
theorem build_renumbered (ids : IdSource) {c : Builder} (h : Renumbers f b c) :
    ∃ warnings, c.build ids = { b.build ids with warnings } ∧ AreRenumbered f (b.build ids).warnings warnings := by
  obtain ⟨ws, rfl, related⟩ := h
  obtain ⟨relationships, unresolved, drawn⟩ := resolveRelationships_renumbered ids b ws b.drawn b.relationships
  obtain ⟨views, unanchored⟩ := resolveViews_renumbered b ws b.buildElements b.views
  refine ⟨_, ?_, (related.append unresolved).append unanchored⟩
  have elements : (b.renumbered f ws).buildElements = b.buildElements := rfl
  have name : (b.renumbered f ws).name = b.name := rfl
  unfold build
  rw [elements, name]
  simp only [renumbered] at relationships drawn views ⊢
  rw [relationships, drawn, views]

end Builder

end Blueprint.Dsl
