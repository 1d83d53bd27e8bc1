/-
  Blueprint.Proofs.Dsl.Account — nothing that was handled is lost without a warning (`feed` and then `build` of
  `ModelBuilder`).

  References are resolved when all statements were taken in, so that it does not matter whether an element
  stands before or behind what refers to it. A relationship without a source gives its warning at once; one
  whose ends are not both known, and a view that needs an anchor and has none, give theirs at the end.

  Proved: every declaration is an element, and every relationship and view that was handled is in the
  workspace, in order, or gives one warning with its line (`accounts_build`).
-/

import Blueprint.Proofs.Dsl.Handled
import Blueprint.Proofs.Dsl.Soundness

namespace Blueprint.Dsl

open Text

/-! ## What becomes of what was declared -/

/-- The element is the one that was declared; its place on the canvas is another matter. -/
structure PendingElement.Becomes (p : PendingElement) (e : Element) : Prop where
  id : e.id = p.id
  kind : e.kind = p.kind
  name : e.name = p.name
  description : e.description = p.description
  technology : e.technology = p.technology
  tags : e.tags = p.tags
  parentId : e.parentId = p.parentId
  isExternal : e.isExternal = p.isExternal

/-- Both ends are known. -/
def PendingRelationship.isConnected (stands : String → Option String) (p : PendingRelationship) : Bool :=
  (stands p.source).isSome && (stands p.target).isSome

structure PendingRelationship.Becomes (stands : String → Option String) (p : PendingRelationship) (r : Relationship) :
    Prop where
  source : stands p.source = some r.sourceId
  target : stands p.target = some r.targetId
  description : r.description = p.description
  technology : r.technology = p.technology
  kind : r.kind = .uses
  tags : r.tags = p.tags

/-- The anchor is known, or none is needed. A star is not the name of anything. -/
def PendingView.isAnchored (stands : String → Option String) (p : PendingView) : Bool :=
  p.view.kind == .deployment || p.anchor.all fun anchor => anchor != "*" && (stands anchor).isSome

/-- The view but for its name. A deployment view is about a node by its key alone. -/
structure PendingView.Becomes (stands : String → Option String) (p : PendingView) (v : View) : Prop where
  id : v.id = p.view.id
  kind : v.kind = p.view.kind
  description : v.description = p.view.description
  anchor : v.kind ≠ .deployment → v.anchorId = p.anchor.bind stands
  key : v.key = p.view.key ∨ v.kind = .deployment ∧ ∃ id, p.anchor.bind stands = some id ∧ v.key = deploymentViewKey id

namespace Told

/-- The warning about a relationship that has an end which is not known. -/
def unconnected? (stands : String → Option String) (t : Told) : Option String :=
  (t.relationship?.filter (!·.isConnected stands)).map Builder.unresolvedEnds

/-- The warning about a view that has no anchor. -/
def unanchored? (ids : IdSource) (stands : String → Option String) (t : Told) : Option String :=
  ((t.view? ids).filter (!·.isAnchored stands)).map fun p => Builder.unresolvedAnchor p (p.anchor.getD "")

/-- The warning that a statement gives. -/
def warning? (ids : IdSource) (stands : String → Option String) (t : Told) : Option String :=
  t.sourceless?.or ((t.unconnected? stands).or (t.unanchored? ids stands))

/-- The statement takes effect without a warning. -/
def isKept (ids : IdSource) (stands : String → Option String) (t : Told) : Bool := (t.warning? ids stands).isNone

end Told

/-- What was read accounts for all statements that were handled. References are to the last element of all. -/
structure Accounts (ids : IdSource) (ts : List Told) (p : Parsed) : Prop where
  elements : List.Forall₂ (fun t e => ∃ q, t.element? ids = some q ∧ q.Becomes e)
    (ts.filter (·.isDeclaration)) p.workspace.elements
  relationships : List.Forall₂ (fun t r => ∃ q, t.relationship? = some q ∧ q.Becomes (standsFor ids ts) r)
    (ts.filter fun t => t.isRelationship && t.isKept ids (standsFor ids ts)) p.workspace.relationships
  /-- The other views were added to those that were declared. -/
  views : ∃ front shown behind drawn, p.workspace.views = front ++ shown ++ behind ∧
    (Workspace.cover ids drawn { p.workspace with views := shown }).1 = p.workspace ∧
    List.Forall₂ (fun t v => ∃ q, t.view? ids = some q ∧ q.Becomes (standsFor ids ts) v)
      (ts.filter fun t => t.isView && t.isKept ids (standsFor ids ts)) shown
  /-- A relationship is kept just if it has a source and both its ends are names of elements. -/
  kept : ∀ t ∈ ts, t.isRelationship = true →
    (t.isKept ids (standsFor ids ts) = true ↔ ∃ q, t.relationship? = some q ∧
      (∃ u ∈ ts, u.isCalled ids q.source = true) ∧ ∃ u ∈ ts, u.isCalled ids q.target = true)
  warnings : p.warnings.Perm (ts.filterMap (·.warning? ids (standsFor ids ts)))
  numbered : ∀ t ∈ ts, ∀ warning, t.warning? ids (standsFor ids ts) = some warning →
    ∃ what, warning = "Line " ++ natText t.statement.line ++ ": " ++ what

variable {ids : IdSource} {stands : String → Option String}

/-! ## Elements -/

theorem isDeclaration_eq (ids : IdSource) (t : Told) : t.isDeclaration = (t.element? ids).isSome := by
  unfold Told.isDeclaration Told.element?
  cases t.clause <;> rfl

theorem forall₂_mapIdx_filterMap {α β γ : Type} {part : α → Option β} {R : α → γ → Prop} (xs : List α)
    (f : Nat → β → γ) (h : ∀ x p i, part x = some p → R x (f i p)) :
    List.Forall₂ R (xs.filter fun x => (part x).isSome) ((xs.filterMap part).mapIdx f) := by
  induction xs generalizing f with
  | nil => exact .nil
  | cons x xs ih =>
    cases hx : part x with
    | none =>
      rw [List.filter_cons_of_neg (by simp [hx]), List.filterMap_cons_none hx]
      exact ih f h
    | some p =>
      rw [List.filter_cons_of_pos (by simp [hx]), List.filterMap_cons_some hx, List.mapIdx_cons]
      exact .cons (h x p 0 hx) (ih _ fun y q i hy => h y q (i + 1) hy)

/-! ## Relationships -/

theorem isRelationship_of_eq_some {t : Told} {q : PendingRelationship} (h : t.relationship? = some q) :
    t.isRelationship = true ∧ q.line = t.statement.line := by
  unfold Told.relationship? at h
  unfold Told.isRelationship
  split at h
  · obtain ⟨source, _, rfl⟩ := Option.map_eq_some_iff.1 h
    exact ⟨rfl, rfl⟩
  · cases h

theorem isView_of_eq_some {t : Told} {q : PendingView} (h : t.view? ids = some q) :
    t.isView = true ∧ t.isRelationship = false ∧ q.line = t.statement.line ∧
      q.view.softwareSystemId = none ∧ q.view.containerId = none := by
  unfold Told.view? at h
  unfold Told.isView Told.isRelationship
  cases hc : t.clause with
  | view kind anchor rest =>
    rw [hc] at h
    cases h
    exact ⟨rfl, rfl, rfl, rfl, rfl⟩
  | _ => rw [hc] at h; cases h

/-- A relationship and a view are never declared by the same statement. -/
theorem relationship?_eq_none {t : Told} {q : PendingView} (h : t.view? ids = some q) : t.relationship? = none := by
  cases hr : t.relationship? with
  | none => rfl
  | some r =>
    have relationship := (isRelationship_of_eq_some hr).1
    rw [(isView_of_eq_some h).2.1] at relationship
    cases relationship

theorem view?_eq_none (ids : IdSource) {t : Told} (h : t.isRelationship = true) : t.view? ids = none := by
  cases hv : t.view? ids with
  | none => rfl
  | some q =>
    rw [(isView_of_eq_some hv).2.1] at h
    cases h

theorem isKept_relationship (ids : IdSource) (stands : String → Option String) (t : Told) :
    (t.isRelationship && t.isKept ids stands) = t.relationship?.any (·.isConnected stands) := by
  unfold Told.isKept Told.warning? Told.sourceless? Told.unconnected? Told.unanchored?
  cases hr : t.relationship? with
  | none => cases h : t.isRelationship <;> simp
  | some q =>
    have relationship := (isRelationship_of_eq_some hr).1
    rw [view?_eq_none ids relationship, relationship]
    cases hc : q.isConnected stands <;> simp [hc]

theorem isSome_standsFor {ts : List Told} {reference : String} :
    (standsFor ids ts reference).isSome = true ↔ ∃ u ∈ ts, u.isCalled ids reference = true := by
  simp [standsFor]

/-- Whether a relationship is kept does not depend on where the elements stand. -/
theorem isKept_iff {ts : List Told} {t : Told} (h : t.isRelationship = true) :
    t.isKept ids (standsFor ids ts) = true ↔ ∃ q, t.relationship? = some q ∧
      (∃ u ∈ ts, u.isCalled ids q.source = true) ∧ ∃ u ∈ ts, u.isCalled ids q.target = true := by
  have both := isKept_relationship ids (standsFor ids ts) t
  rw [h, Bool.true_and] at both
  rw [both]
  cases t.relationship? with
  | none => simp
  | some q => simp [PendingRelationship.isConnected, isSome_standsFor]

theorem endsOf?_of_known {b : Builder} (known : ∀ reference, b.idOf? reference = stands reference)
    (q : PendingRelationship) :
    b.endsOf? q = (stands q.source).bind fun source => (stands q.target).map (source, ·) := by
  unfold Builder.endsOf?
  rw [known, known]
  cases stands q.source <;> cases stands q.target <;> rfl

theorem becomes_resolveRelationships (ids : IdSource) {b : Builder}
    (known : ∀ reference, b.idOf? reference = stands reference) (ts : List Told) (drawn : Nat) :
    List.Forall₂ (fun t r => ∃ q, t.relationship? = some q ∧ q.Becomes stands r)
        (ts.filter fun t => t.relationship?.any (·.isConnected stands))
        (b.resolveRelationships ids drawn (ts.filterMap (·.relationship?))).1 ∧
      (b.resolveRelationships ids drawn (ts.filterMap (·.relationship?))).2.1 =
        ts.filterMap (·.unconnected? stands) := by
  induction ts generalizing drawn with
  | nil => exact ⟨.nil, rfl⟩
  | cons t ts ih =>
    cases hr : t.relationship? with
    | none =>
      have quiet : t.unconnected? stands = none := by simp [Told.unconnected?, hr]
      rw [List.filter_cons_of_neg (by simp [hr]), List.filterMap_cons_none hr, List.filterMap_cons_none quiet]
      exact ih drawn
    | some q =>
      rw [List.filterMap_cons_some hr, Builder.resolveRelationships, endsOf?_of_known known]
      cases connected : q.isConnected stands with
      | true =>
        have quiet : t.unconnected? stands = none := by simp [Told.unconnected?, hr, connected]
        obtain ⟨source, target⟩ := Bool.and_eq_true_iff.1 connected
        obtain ⟨sourceId, hs⟩ := Option.isSome_iff_exists.1 source
        obtain ⟨targetId, ht⟩ := Option.isSome_iff_exists.1 target
        obtain ⟨rest, warned⟩ := ih (drawn + 1)
        rw [List.filter_cons_of_pos (by simp [hr, connected]), List.filterMap_cons_none quiet, hs, ht]
        exact ⟨.cons ⟨q, hr, hs, ht, rfl, rfl, rfl, rfl⟩ rest, warned⟩
      | false =>
        have warning : t.unconnected? stands = some (Builder.unresolvedEnds q) := by
          simp [Told.unconnected?, hr, connected]
        obtain ⟨rest, warned⟩ := ih drawn
        rw [List.filter_cons_of_neg (by simp [hr, connected]), List.filterMap_cons_some warning]
        unfold PendingRelationship.isConnected at connected
        cases hs : stands q.source with
        | none => exact ⟨rest, congrArg _ warned⟩
        | some sourceId =>
          cases ht : stands q.target with
          | none => exact ⟨rest, congrArg _ warned⟩
          | some targetId => simp [hs, ht] at connected

/-! ## Views -/

theorem isKept_view (ids : IdSource) (stands : String → Option String) (t : Told) :
    (t.isView && t.isKept ids stands) = (t.view? ids).any (·.isAnchored stands) := by
  cases hv : t.view? ids with
  | none =>
    have other : t.isView = false := by
      unfold Told.view? at hv
      unfold Told.isView
      cases hc : t.clause with
      | view kind anchor rest => rw [hc] at hv; cases hv
      | _ => rfl
    rw [other]
    rfl
  | some q =>
    obtain ⟨view, other, _⟩ := isView_of_eq_some hv
    unfold Told.isKept Told.warning? Told.sourceless? Told.unconnected? Told.unanchored?
    rw [view, other, relationship?_eq_none hv, hv]
    cases ha : q.isAnchored stands <;> simp [ha]

/-- A view is resolved if it has the anchor that it needs, whatever its name has become. -/
theorem resolveView_untitled {b : Builder} (known : ∀ reference, b.table.resolve reference = stands reference)
    (es : List Element) {p q : PendingView} (same : p.untitled = q) (system : q.view.softwareSystemId = none)
    (container : q.view.containerId = none) :
    if q.isAnchored stands then ∃ v, b.resolveView es p = .ok v ∧ q.Becomes stands v
    else b.resolveView es p = .error (Builder.unresolvedAnchor q (q.anchor.getD "")) := by
  subst same
  have system' : p.view.softwareSystemId = none := system
  have container' : p.view.containerId = none := container
  unfold Builder.resolveView PendingView.isAnchored
  show if (p.view.kind == .deployment || p.anchor.all fun anchor => anchor != "*" && (stands anchor).isSome) = true
    then _ else _
  cases ha : p.anchor with
  | none =>
    rw [if_pos (by simp)]
    refine ⟨p.view, rfl, rfl, rfl, rfl, fun _ => ?_, .inl rfl⟩
    show p.view.anchorId = p.anchor.bind stands
    simp [View.anchorId, system', container', ha]
  | some anchor =>
    simp only [known]
    cases hid : if anchor = "*" then none else stands anchor with
    | none =>
      have lacking : (anchor != "*" && (stands anchor).isSome) = false := by
        by_cases star : anchor = "*"
        · simp [star]
        · rw [if_neg star] at hid
          simp [hid]
      by_cases hk : p.view.kind = .deployment
      · rw [if_pos (by simp [hk]), if_pos hk]
        exact ⟨p.view, rfl, rfl, rfl, rfl, fun other => absurd hk other, .inl rfl⟩
      · rw [if_neg (by simp [hk, lacking]), if_neg hk]
        show _ = Except.error (Builder.unresolvedAnchor p.untitled (p.anchor.getD ""))
        rw [ha]
        rfl
    | some id =>
      obtain ⟨notStar, names⟩ : anchor ≠ "*" ∧ stands anchor = some id := by
        by_cases star : anchor = "*"
        · simp [star] at hid
        · exact ⟨star, by rwa [if_neg star] at hid⟩
      have anchored : p.untitled.anchor.bind stands = some id := by
        show p.anchor.bind stands = some id
        rw [ha, Option.bind_some, names]
      rw [if_pos (by simp [notStar, names])]
      by_cases hk : p.view.kind = .deployment
      · rw [if_pos hk]
        refine ⟨_, rfl, ?_⟩
        split
        · exact ⟨rfl, rfl, rfl, fun other => absurd hk other, .inr ⟨hk, id, anchored, rfl⟩⟩
        · exact ⟨rfl, rfl, rfl, fun other => absurd hk other, .inl rfl⟩
      · rw [if_neg hk]
        refine ⟨_, rfl, ?_⟩
        split
        · next component => exact ⟨rfl, rfl, rfl, fun _ => by simp [View.anchorId, component, anchored], .inl rfl⟩
        · next other => exact ⟨rfl, rfl, rfl, fun _ => by simp [View.anchorId, other, anchored], .inl rfl⟩

theorem becomes_resolveViews {b : Builder} (known : ∀ reference, b.table.resolve reference = stands reference)
    (es : List Element) (ts : List Told) {ps : List PendingView}
    (told : ps.map (·.untitled) = ts.filterMap (·.view? ids)) :
    List.Forall₂ (fun t v => ∃ q, t.view? ids = some q ∧ q.Becomes stands v)
        (ts.filter fun t => (t.view? ids).any (·.isAnchored stands)) (b.resolveViews es ps).1 ∧
      (b.resolveViews es ps).2 = ts.filterMap (·.unanchored? ids stands) := by
  induction ts generalizing ps with
  | nil =>
    obtain rfl : ps = [] := List.map_eq_nil_iff.1 told
    exact ⟨.nil, rfl⟩
  | cons t ts ih =>
    cases hv : t.view? ids with
    | none =>
      have quiet : t.unanchored? ids stands = none := by simp [Told.unanchored?, hv]
      rw [List.filterMap_cons_none hv] at told
      rw [List.filter_cons_of_neg (by simp [hv]), List.filterMap_cons_none quiet]
      exact ih told
    | some q =>
      rw [List.filterMap_cons_some hv] at told
      obtain ⟨p, ps, rfl, same, told⟩ := List.map_eq_cons_iff.1 told
      obtain ⟨rest, warned⟩ := ih told
      obtain ⟨_, _, _, system, container⟩ := isView_of_eq_some hv
      have resolved := resolveView_untitled known es same system container
      rw [Builder.resolveViews]
      cases anchored : q.isAnchored stands with
      | true =>
        rw [anchored, if_pos rfl] at resolved
        obtain ⟨v, shown, becomes⟩ := resolved
        have quiet : t.unanchored? ids stands = none := by simp [Told.unanchored?, hv, anchored]
        rw [List.filter_cons_of_pos (by simp [hv, anchored]), List.filterMap_cons_none quiet, shown]
        exact ⟨.cons ⟨q, hv, becomes⟩ rest, warned⟩
      | false =>
        rw [anchored, if_neg (by decide)] at resolved
        have warning : t.unanchored? ids stands = some (Builder.unresolvedAnchor q (q.anchor.getD "")) := by
          simp [Told.unanchored?, hv, anchored]
        rw [List.filter_cons_of_neg (by simp [hv, anchored]), List.filterMap_cons_some warning, resolved]
        exact ⟨rest, congrArg _ warned⟩

/-! ## Warnings -/

theorem filterMap_or_perm {α β : Type} {f g : α → Option β} (xs : List α) (apart : ∀ x, f x = none ∨ g x = none) :
    (xs.filterMap fun x => (f x).or (g x)).Perm (xs.filterMap f ++ xs.filterMap g) := by
  induction xs with
  | nil => exact .refl _
  | cons x xs ih =>
    rw [List.filterMap_cons, List.filterMap_cons, List.filterMap_cons]
    rcases apart x with none | none
    · cases hg : g x with
      | none => simpa [none, hg] using ih
      | some y =>
        simp only [none, Option.none_or]
        exact (ih.cons y).trans List.perm_middle.symm
    · cases hf : f x with
      | none => simpa [none, hf] using ih
      | some y => simpa [none, hf] using ih

/-- A statement gives one of the three warnings at most. -/
theorem warnings_perm (ids : IdSource) (stands : String → Option String) (ts : List Told) :
    (ts.filterMap (·.warning? ids stands)).Perm
      (ts.filterMap (·.sourceless?) ++ ts.filterMap (·.unconnected? stands) ++
        ts.filterMap (·.unanchored? ids stands)) := by
  rw [List.append_assoc]
  refine (filterMap_or_perm ts fun t => ?_).trans (.append_left _ (filterMap_or_perm ts fun t => ?_))
  · unfold Told.sourceless? Told.unconnected? Told.unanchored?
    cases hr : t.relationship? with
    | some q => simp
    | none =>
      cases relationship : t.isRelationship with
      | false => simp
      | true => simp [view?_eq_none ids relationship]
  · unfold Told.unconnected? Told.unanchored?
    cases hv : t.view? ids with
    | none => simp
    | some q => simp [relationship?_eq_none hv]

theorem numbered_warning {t : Told} {warning : String} (h : t.warning? ids stands = some warning) :
    ∃ what, warning = "Line " ++ natText t.statement.line ++ ": " ++ what := by
  unfold Told.warning? at h
  rcases Option.or_eq_some_iff.1 h with h | ⟨_, h⟩
  · unfold Told.sourceless? at h
    split at h
    · cases h
      exact ⟨"relationship without a source outside an element block",
        by simp [Builder.noSourceWarning, String.append_assoc]⟩
    · cases h
  · rcases Option.or_eq_some_iff.1 h with h | ⟨_, h⟩
    · obtain ⟨q, hq, rfl⟩ := Option.map_eq_some_iff.1 h
      rw [← (isRelationship_of_eq_some (Option.eq_some_of_filter_eq_some hq)).2]
      have text : ": could not resolve relationship elements: " =
        ": " ++ "could not resolve relationship elements: " := rfl
      exact ⟨"could not resolve relationship elements: " ++ (q.source ++ (" -> " ++ q.target)),
        by simp only [Builder.unresolvedEnds, text, String.append_assoc]⟩
    · obtain ⟨q, hq, rfl⟩ := Option.map_eq_some_iff.1 h
      rw [← (isView_of_eq_some (Option.eq_some_of_filter_eq_some hq)).2.2.1]
      have text : ": could not resolve " = ": " ++ "could not resolve " := rfl
      exact ⟨"could not resolve " ++ (q.view.kind.keyword ++ (" view anchor: " ++ q.anchor.getD "")),
        by simp only [Builder.unresolvedAnchor, text, String.append_assoc]⟩

/-! ## The whole account -/

theorem build_warnings (ids : IdSource) (b : Builder) :
    (b.build ids).warnings = b.warnings ++ (b.resolveRelationships ids b.drawn b.relationships).2.1 ++
      (b.resolveViews b.buildElements b.views).2 := rfl

theorem idOf?_of_feedAll (named : ∀ n, ids n ≠ "") (drawn : Nat) (ss : List Statement) (reference : String) :
    (Builder.feedAll ids { drawn } ss).idOf? reference = standsFor ids (handled ids { drawn } ss) reference := by
  unfold Builder.idOf?
  rw [Builder.resolve_feedAll]
  cases h : standsFor ids (handled ids { drawn } ss) reference with
  | none => rfl
  | some id =>
    obtain ⟨t, _, rfl⟩ := Option.map_eq_some_iff.1 h
    exact if_neg (named _)

/-- The views that were declared, among those that were added to them. -/
theorem build_views (ids : IdSource) (b : Builder) :
    ∃ front behind drawn, (b.build ids).workspace.views = front ++ (b.uncovered ids).views ++ behind ∧
      (Workspace.cover ids drawn { (b.build ids).workspace with views := (b.uncovered ids).views }).1 =
        (b.build ids).workspace := by
  obtain ⟨front, behind, eq⟩ := (b.uncovered ids).cover_eq_append ids (b.drawnForAll ids)
  have built : (b.build ids).workspace = ((b.uncovered ids).cover ids (b.drawnForAll ids)).1 := b.build_workspace ids
  have same : { (b.build ids).workspace with views := (b.uncovered ids).views } = b.uncovered ids := by
    rw [built, eq]
  exact ⟨front, behind, b.drawnForAll ids, by rw [built, eq], by rw [same, built]⟩

/-- Every declaration is an element, and every relationship and view is kept or gives a warning. -/
theorem accounts_build (named : ∀ n, ids n ≠ "") (drawn : Nat) (ss : List Statement) :
    Accounts ids (handled ids { drawn } ss) ((Builder.feedAll ids { drawn } ss).build ids) := by
  have elements := Builder.elements_feedAll ids { drawn } ss
  have relationships := Builder.relationships_feedAll ids { drawn } ss
  have views := Builder.views_feedAll ids { drawn } ss
  have warnings := Builder.warnings_feedAll ids { drawn } ss
  have known := idOf?_of_feedAll named drawn ss
  have resolve := Builder.resolve_feedAll ids drawn ss
  generalize handled ids { drawn } ss = ts at *
  generalize Builder.feedAll ids { drawn } ss = b at *
  simp only [List.map_nil, List.nil_append] at elements relationships views warnings
  obtain ⟨connected, unconnected⟩ := becomes_resolveRelationships ids known ts b.drawn
  obtain ⟨shown, unanchored⟩ := becomes_resolveViews resolve b.buildElements ts views
  obtain ⟨front, behind, n, among, covered⟩ := build_views ids b
  refine ⟨?_, ?_, ⟨front, _, behind, n, among, covered, ?_⟩, fun t _ => isKept_iff, ?_, fun t _ w => numbered_warning⟩
  · rw [Builder.build_elements, Builder.buildElements, elements, List.filter_congr fun t _ => isDeclaration_eq ids t]
    exact forall₂_mapIdx_filterMap ts _ fun t q i told => ⟨q, told, rfl, rfl, rfl, rfl, rfl, rfl, rfl, rfl⟩
  · rw [Builder.build_relationships, relationships, List.filter_congr fun t _ => isKept_relationship ids _ t]
    exact connected
  · rw [List.filter_congr fun t _ => isKept_view ids _ t]
    exact shown
  · rw [build_warnings, warnings, relationships, unconnected, unanchored]
    exact (warnings_perm ids _ ts).symm

/-- Relationships in front of and behind what they refer to, one of them without a source and one without a
target; and a view of something that is not there. -/
def forwardAndBack : String :=
  "model \x7b\nu -> b\na = softwareSystem \"A\" \x7b\ngroup \"G\" \x7b\nb = container \"B\"\n\x7d\n" ++
    "-> c\nthis -> u\n\x7d\nu = person \"U\"\n-> a.b\n\x7d\nviews \x7b\ncontainer a\ncomponent c\n\x7d"

theorem accounts_build_forwardAndBack :
    let p := (Builder.feedAll IdSource.strokes { drawn := 0 } (tokenize forwardAndBack)).build IdSource.strokes
    (p.workspace.elements.map (·.name) = ["A", "G", "B", "U"] ∧
      p.workspace.relationships.map (fun r => (r.sourceId, r.targetId)) = [("iiii", "iii"), ("i", "iiii")] ∧
      p.workspace.views.map (·.anchorId) = [none, some "i"] ∧
      p.warnings = ["Line 11: relationship without a source outside an element block",
        "Line 7: could not resolve relationship elements: a -> c",
        "Line 15: could not resolve component view anchor: c"]) ∧
      Accounts IdSource.strokes (handled IdSource.strokes { drawn := 0 } (tokenize forwardAndBack)) p :=
  ⟨by decide +kernel, accounts_build IdSource.fresh_strokes.ne_empty 0 (tokenize forwardAndBack)⟩

end Blueprint.Dsl
