/-
  Blueprint.Proofs.Dsl.Moved — relationships that stand somewhere else (`_on_relationship` and then
  `_resolve_relationships`).

  A relationship that names both its ends is kept as it is written until all statements were taken in, so it may
  stand before what it refers to, in or outside of any block that declares. Nothing that is done to the builder
  until then depends on the relationships that it keeps, and a relationship draws its id behind all of them. What
  counts is the order of the relationships among each other: ids and warnings follow it.

  Proved: statements do the same to a builder whatever relationships it keeps, and add the same ones
  (`feedAll_keeping`); a relationship that names both its ends may be moved among the other statements, and the same
  document is read (`build_moved`).
-/

import Blueprint.Proofs.Dsl.Account
import Blueprint.Proofs.Dsl.Frames

namespace Blueprint.Dsl

open Text

/-- The statement is a relationship with both ends written, neither of them as the element around it. -/
def Statement.NamesEnds (s : Statement) : Prop :=
  ∃ source target rest, classify s false = .relationship (some source) target rest ∧ source ≠ selfReference ∧
    target ≠ selfReference

namespace Builder

variable {ids : IdSource} {b : Builder} {s r : Statement} {ss before between after : List Statement} {drawn : Nat}

/-- Declarations are taken in here: it is not among the views, and nothing is skipped. -/
def isDeclaring (b : Builder) : Bool := !b.inViews && !b.isSkipping

/-! ## The relationships that are kept -/

/-- The builder with other relationships. -/
def keeping (b : Builder) (rs : List PendingRelationship) : Builder := { b with relationships := rs }

/-- A relationship as it is kept, with its ends as references. -/
def pending (source target : String) (rest : List Char) (line : Nat) : PendingRelationship :=
  let args := quotedArguments rest
  { source, target, description := args[0]?.getD "", technology := optional args 1, tags := tagsAt args 2, line }

@[simp] theorem keeping_relationships (b : Builder) : b.keeping b.relationships = b := rfl

theorem onRelationship_keeping (b : Builder) (line : Nat) (source : Option (List Char)) (target rest : List Char) :
    ∃ added, ∀ rs, (b.keeping rs).onRelationship line source target rest =
      (b.onRelationship line source target rest).keeping (rs ++ added) := by
  have frames : ∀ rs, (b.keeping rs).sourceOf source = b.sourceOf source := fun rs => by cases source <;> rfl
  cases found : b.sourceOf source with
  | none =>
    refine ⟨[], fun rs => ?_⟩
    simp only [onRelationship, frames, found, List.append_nil]
    rfl
  | some sender =>
    refine ⟨[pending sender (b.targetOf target) rest line], fun rs => ?_⟩
    simp only [onRelationship, frames, found]
    rfl

/-- What the builder makes of a clause does not depend on the relationships that it keeps. -/
theorem handle_keeping (ids : IdSource) (b : Builder) (s : Statement) (c : Clause) :
    ∃ added, ∀ rs, (b.keeping rs).handle ids s c = (b.handle ids s c).keeping (rs ++ added) := by
  have quiet : (∀ rs, (b.keeping rs).handle ids s c = (b.handle ids s c).keeping rs) →
      ∃ added, ∀ rs, (b.keeping rs).handle ids s c = (b.handle ids s c).keeping (rs ++ added) :=
    fun same => ⟨[], fun rs => by rw [same, List.append_nil]⟩
  obtain ⟨table, positions, elements, relationships, views, warnings, heading, stack, drawn⟩ := b
  cases c with
  | relationship source target rest => exact onRelationship_keeping _ s.line source target rest
  | workspace rest =>
    refine quiet fun rs => ?_
    cases heading <;> cases opens : s.opens <;> simp [handle, onWorkspace, keeping, pushIf, push, opens]
  | position x y =>
    cases stack with
    | nil => exact quiet fun _ => rfl
    | cons f fs => cases f <;> exact quiet fun _ => rfl
  | viewTitle title =>
    cases stack with
    | nil => exact quiet fun _ => rfl
    | cons f fs => cases f <;> exact quiet fun _ => rfl
  | unknown =>
    refine quiet fun rs => ?_
    cases opens : s.opens <;> simp [handle, keeping, pushIf, push, opens]
  | _ => exact quiet fun _ => rfl

theorem feed_keeping (ids : IdSource) (b : Builder) (s : Statement) :
    ∃ added, ∀ rs, (b.keeping rs).feed ids s = (b.feed ids s).keeping (rs ++ added) := by
  cases close : s.isClose with
  | true =>
    refine ⟨[], fun rs => ?_⟩
    rw [feed_close ids b close, feed_close ids _ close, List.append_nil]
    rfl
  | false =>
    -- what is read where does not depend on the relationships either
    cases skipping : b.isSkipping with
    | true =>
      refine ⟨[], fun rs => ?_⟩
      have other : (b.keeping rs).feed ids s = (b.keeping rs).pushIf s.opens .block := feed_skipped ids close skipping
      rw [other, feed_skipped ids close skipping, List.append_nil]
      cases s.opens <;> rfl
    | false =>
      obtain ⟨added, same⟩ := handle_keeping ids b s (classify s b.inViews)
      refine ⟨added, fun rs => ?_⟩
      have other : (b.keeping rs).feed ids s = (b.keeping rs).handle ids s (classify s b.inViews) :=
        feed_handled ids close skipping
      rw [other, feed_handled ids close skipping, same]

/-- Statements do the same to a builder whatever relationships it keeps, and add the same ones to them. -/
theorem feedAll_keeping (ids : IdSource) (b : Builder) (ss : List Statement) :
    ∃ added, ∀ rs, (b.keeping rs).feedAll ids ss = (b.feedAll ids ss).keeping (rs ++ added) := by
  induction ss generalizing b with
  | nil => exact ⟨[], fun rs => by rw [List.append_nil]; rfl⟩
  | cons s ss ih =>
    obtain ⟨first, hfirst⟩ := feed_keeping ids b s
    obtain ⟨later, hlater⟩ := ih (b.feed ids s)
    refine ⟨first ++ later, fun rs => ?_⟩
    show ((b.keeping rs).feed ids s).feedAll ids ss = _
    rw [hfirst, hlater, List.append_assoc]
    rfl

/-- Where no relationship is handled, those that are kept stay as they are. -/
theorem feedAll_keeping_of_none (noRelationship : ∀ t ∈ handled ids b ss, t.isRelationship = false)
    (rs : List PendingRelationship) : (b.keeping rs).feedAll ids ss = (b.feedAll ids ss).keeping rs := by
  obtain ⟨added, same⟩ := feedAll_keeping ids b ss
  have nothing : (handled ids b ss).filterMap (·.relationship?) = [] :=
    List.filterMap_eq_nil_iff.2 fun t known => by
      cases told : t.relationship? with
      | none => rfl
      | some q =>
        have isOne := (isRelationship_of_eq_some told).1
        rw [noRelationship t known] at isOne
        cases isOne
  have kept : b.relationships ++ added = b.relationships := by
    have here := congrArg Builder.relationships (same b.relationships)
    rw [keeping_relationships, relationships_feedAll, nothing, List.append_nil] at here
    exact here.symm
  rw [same, List.append_right_eq_self.1 kept, List.append_nil]

/-! ## A relationship that names both its ends -/

/-- What is kept of a relationship that names both its ends does not depend on the builder. -/
theorem feed_namesEnds (ids : IdSource) (names : s.NamesEnds) :
    ∃ p, ∀ b : Builder, b.isDeclaring = true → b.feed ids s = b.keeping (b.relationships ++ [p]) := by
  obtain ⟨source, target, rest, hc, notSelf, notSelfTarget⟩ := names
  have notClose : s.isClose = false := Bool.eq_false_iff.2 fun close => by
    rw [classify, if_pos close] at hc
    cases hc
  refine ⟨pending (String.ofList source) (String.ofList target) rest s.line, fun b declaring => ?_⟩
  simp only [isDeclaring, Bool.and_eq_true, Bool.not_eq_true'] at declaring
  rw [feed_handled ids notClose declaring.2, declaring.1, hc]
  simp only [handle, onRelationship, sourceOf, targetOf, if_neg notSelf, if_neg notSelfTarget]
  rfl

/-- A relationship that names both its ends does the same behind statements that add no relationship. -/
theorem feedAll_namesEnds_comm (names : s.NamesEnds) (here : b.isDeclaring = true)
    (there : (b.feedAll ids ss).isDeclaring = true)
    (noRelationship : ∀ t ∈ handled ids b ss, t.isRelationship = false) :
    b.feedAll ids (s :: ss) = b.feedAll ids (ss ++ [s]) := by
  obtain ⟨p, kept⟩ := feed_namesEnds ids names
  have none : (b.feedAll ids ss).relationships = b.relationships := by
    have same := feedAll_keeping_of_none noRelationship b.relationships
    rw [keeping_relationships] at same
    rw [same]
    rfl
  calc b.feedAll ids (s :: ss)
      = (b.feed ids s).feedAll ids ss := rfl
    _ = (b.keeping (b.relationships ++ [p])).feedAll ids ss := by rw [kept b here]
    _ = (b.feedAll ids ss).keeping (b.relationships ++ [p]) := feedAll_keeping_of_none noRelationship _
    _ = (b.feedAll ids ss).feed ids s := by rw [kept _ there, none]
    _ = b.feedAll ids (ss ++ [s]) := (feedAll_concat ids b ss s).symm

/-- A relationship that names both its ends may be moved among the statements that are not handled as relationships,
to wherever declarations are taken in: the same document is read. -/
theorem build_moved (names : r.NamesEnds) (here : (feedAll ids { drawn } before).isDeclaring = true)
    (there : (feedAll ids { drawn } (before ++ between)).isDeclaring = true)
    (order : ∀ t ∈ handled ids (feedAll ids { drawn } before) between, t.isRelationship = false) :
    (feedAll ids { drawn } (before ++ r :: (between ++ after))).build ids =
      (feedAll ids { drawn } (before ++ (between ++ r :: after))).build ids := by
  have swapped := feedAll_namesEnds_comm names here (by rwa [← feedAll_append]) order
  have joined (ss : List Statement) : feedAll ids { drawn } (before ++ (ss ++ after)) =
      ((feedAll ids { drawn } before).feedAll ids ss).feedAll ids after := by
    rw [feedAll_append, feedAll_append]
  congr 1
  calc feedAll ids { drawn } (before ++ r :: (between ++ after))
      = ((feedAll ids { drawn } before).feedAll ids (r :: between)).feedAll ids after := joined (r :: between)
    _ = ((feedAll ids { drawn } before).feedAll ids (between ++ [r])).feedAll ids after := by rw [swapped]
    _ = feedAll ids { drawn } (before ++ (between ++ r :: after)) := by
      rw [← joined, List.append_assoc, List.singleton_append]

/-- A statement on the line. -/
def lineAt (number : Nat) (text : String) : Statement := { text := text.toList, line := number }

/-- The relationship stands before everything that it refers to, and is moved into a block of another element. -/
theorem build_moved_intoBlock :
    let use := lineAt 3 "shop.web -> shop.store \"reads\""
    let front := [lineAt 1 "workspace \"W\" \x7b", lineAt 2 "model \x7b"]
    let between := [lineAt 4 "shop = softwareSystem \"Shop\" \x7b", lineAt 5 "web = container \"Web\"",
      lineAt 6 "store = container \"Store\"", lineAt 7 "\x7d", lineAt 8 "ann = person \"Ann\" \x7b"]
    let back := [lineAt 9 "-> shop \"uses\"", lineAt 10 "\x7d", lineAt 11 "\x7d", lineAt 12 "\x7d"]
    let read (ss : List Statement) := (feedAll IdSource.strokes { drawn := 0 } ss).build IdSource.strokes
    use.NamesEnds ∧ read (front ++ use :: (between ++ back)) = read (front ++ (between ++ use :: back)) ∧
      (read (front ++ use :: (between ++ back))).workspace.relationships.map (·.description) = ["reads", "uses"] := by
  intro use front between back read
  have names : use.NamesEnds :=
    ⟨"shop.web".toList, "shop.store".toList, " \"reads\"".toList, by decide +kernel, by decide, by decide⟩
  exact ⟨names, build_moved names (by decide +kernel) (by decide +kernel) (by decide +kernel), by decide +kernel⟩

end Builder

end Blueprint.Dsl
