/-
  Blueprint.Proofs.Dsl.ViewReading — what a builder makes of the views that are written.

  The header of a view's block adds a view, the title gives it its name, and each note records a position
  for the identifier that it names. Nothing of the model changes, and behind the section the same blocks
  are open as before.

  Proved: one line of a view's block (`feed_viewLine`, `feed_titleLine`, `feed_recordText`), the block
  (`read_viewBlock`), by induction along the views all of them (`presents_views`), and the section
  (`reads_section`).
-/

import Blueprint.Proofs.Dsl.ViewSection

namespace Blueprint

open Text Dsl

/-- The position as a note gives it: its coordinates are whole numbers. -/
def Position.asRead (p : Position) : Position := ⟨(wholeNumeral p.x.nearest).value, (wholeNumeral p.y.nearest).value⟩

namespace Dsl

variable {ws : Workspace} {names : Allocation} {v : View}

/-- The view as it is taken in, its anchor still by its identifier. -/
structure PendingView.Reads (ws : Workspace) (names : Allocation) (v : View) (p : PendingView) : Prop where
  kind : p.view.kind = v.kind
  key : sanitizeKeyText v.key ≠ "" → p.view.key = sanitizeKeyText v.key
  name : p.view.name = if hasTitle v then v.name else sanitizeKeyText v.key
  description : p.view.description = v.description
  systemId : p.view.softwareSystemId = none
  containerId : p.view.containerId = none
  anchor : p.anchor = (writtenAnchor? ws names v).map String.ofList

/-- What the note of an element records. -/
def recordOf (names : Allocation) (e : Element) : String × Position :=
  (String.ofList (identifierOf names e.id), e.position.asRead)

theorem sanitizeKeyText_idem (key : String) : sanitizeKeyText (sanitizeKeyText key) = sanitizeKeyText key := by
  have kept : sanitizeKey (sanitizeKey key.toList) = sanitizeKey key.toList :=
    sanitizeKey_eq_self fun _ => isKeyChar_of_mem_sanitizeKey
  simp only [sanitizeKeyText, String.toList_ofList, kept]

namespace Builder

variable {ids : IdSource} {b c d : Builder}

/-! ## Lines -/

theorem feed_viewLine (ids : IdSource) (among : b.AmongViews) {kind : ViewKind} {anchor : Option (List Char)}
    {key description : String} (anchored : IsAnchoredBy kind anchor) (clean : AllClean [key, description]) (n : Nat) :
    b.feed ids { text := opening (viewLine kind anchor key description), line := n } =
      b.onView ids true n kind anchor (arguments [key, description]) := by
  have notClose := (tells_opening (solid_viewLine anchored clean) n).notClose
  rw [feed_amongViews among notClose, classify_viewLine anchored clean, handle, opens_opening]

theorem feed_titleLine (ids : IdSource) (among : b.AmongViews) {outer : List Frame} (stack : b.stack = .view :: outer)
    {title : String} (clean : IsClean title.toList) (n : Nat) :
    b.feed ids { text := titleLine title, line := n } = { b with views := renameLast title b.views } := by
  have notClose := (tells_line (solid_titleLine clean) n).notClose
  rw [feed_amongViews among notClose, classify_title clean, handle, onViewTitle, stack, unescape_escape clean,
    String.ofList_toList]

theorem feed_recordText (ids : IdSource) (among : b.AmongViews) {w : List Char} (word : IsWord w) {p : Position}
    (hx : p.x.isFinite = true) (hy : p.y.isFinite = true) (n : Nat) :
    b.feed ids { text := recordText w p, line := n, fromComment := true } =
      { b with positions := b.positions.record b.table (String.ofList w) p.asRead } := by
  have notClose := isClose_solid (isNote_recordText word hy).solid n true
  rw [feed_amongViews among notClose, classify_record word hx hy]
  rfl

theorem feed_plainLine (ids : IdSource) (among : b.AmongViews) {text : List Char} (plain : text ∈ plainLines) (n : Nat) :
    b.feed ids { text, line := n } = b := by
  rw [feed_amongViews among (tells_line (solid_plainLine plain) n).notClose]
  simp only [plainLines, List.mem_cons, List.not_mem_nil, or_false] at plain
  rcases plain with rfl | rfl <;> rfl

/-! ## Blocks -/

/-- The last view gets the title that is written for the view, if there is one. -/
def entitle (b : Builder) (v : View) : Builder :=
  { b with views := if hasTitle v then renameLast v.name b.views else b.views }

/-- The positions of these elements are recorded, one after the other. -/
def recordShown (b : Builder) (names : Allocation) (es : List Element) : Builder :=
  { b with positions := Positions.recordAll b.table b.positions (es.map (recordOf names)) }

variable {step : List Char}

theorem read_titleLines (ids : IdSource) (hstep : IsIndent step) (depth n : Nat) (among : b.AmongViews)
    {outer : List Frame} (stack : b.stack = .view :: outer) (clean : AllClean (viewTexts v)) :
    b.feedOutlines ids step depth n (titleLines v) = b.entitle v := by
  rw [titleLines_eq, entitle]
  unfold viewTexts at clean
  split
  · next titled =>
    rw [if_pos titled] at clean
    have name := allClean_singleton.1 (allClean_cons.1 clean).2
    rw [feedOutlines_line hstep (solid_titleLine name), feed_titleLine ids among stack name]
  · rfl

theorem read_recordLines (ids : IdSource) (hstep : IsIndent step) (named : names.Names ws.elements)
    {es : List Element} (known : ∀ e ∈ es, e ∈ ws.elements) (finite : HasFinitePositions es) (depth n : Nat)
    (among : b.AmongViews) :
    b.feedOutlines ids step depth n (es.map (recordLine names)) = b.recordShown names es := by
  induction es generalizing b n with
  | nil => rfl
  | cons e es ih =>
    obtain ⟨⟨hx, hy⟩, later⟩ := List.forall_mem_cons.1 finite
    obtain ⟨he, known⟩ := List.forall_mem_cons.1 known
    have word := word_identifierOf named he
    obtain ⟨m, rest⟩ := b.feedOutlines_cons ids step depth n (recordLine names e) (es.map (recordLine names))
    rw [List.map_cons, rest, recordLine, feedAll_note hstep (isNote_recordText word hy),
      feed_recordText ids among word hx hy]
    exact ih known later m (among.of_stack rfl)

theorem read_contents (ids : IdSource) (hstep : IsIndent step) (named : names.Names ws.elements)
    (clean : AllClean (viewTexts v)) {es : List Element} (known : ∀ e ∈ es, e ∈ ws.elements)
    (finite : HasFinitePositions es) (depth n : Nat) (among : b.AmongViews) {outer : List Frame}
    (stack : b.stack = .view :: outer) :
    b.feedOutlines ids step depth n (titleLines v ++ includeLine :: es.map (recordLine names) ++ [arrangementLine]) =
      (b.entitle v).recordShown names es := by
  have includes : "include *".toList ∈ plainLines := by decide
  have arranges : "autoLayout lr".toList ∈ plainLines := by decide
  have entitled : (b.entitle v).AmongViews := among.of_stack rfl
  have recorded : ((b.entitle v).recordShown names es).AmongViews := entitled.of_stack rfl
  obtain ⟨m1, e1⟩ := b.feedOutlines_append ids step depth n
    (titleLines v ++ includeLine :: es.map (recordLine names)) [arrangementLine]
  obtain ⟨m2, e2⟩ := b.feedOutlines_append ids step depth n (titleLines v) (includeLine :: es.map (recordLine names))
  obtain ⟨m3, e3⟩ := (b.entitle v).feedOutlines_cons ids step depth m2 includeLine (es.map (recordLine names))
  rw [e1, e2, read_titleLines ids hstep depth n among stack clean, e3, includeLine,
    feedAll_line hstep (solid_plainLine includes), feed_plainLine ids entitled includes,
    read_recordLines ids hstep named known finite depth m3 entitled, arrangementLine,
    feedOutlines_line hstep (solid_plainLine arranges), feed_plainLine ids recorded arranges]

theorem read_viewBlock (ids : IdSource) (hstep : IsIndent step) (named : names.Names ws.elements)
    (written : isWritten ws names v = true) (clean : AllClean (viewTexts v))
    (finite : HasFinitePositions (shownElements ws v.kind)) (depth n : Nat) (among : b.AmongViews) :
    b.feedAll ids (statementsAt n ((viewBlock ws names v).lines step depth)) =
      (((b.onView ids true n v.kind (writtenAnchor? ws names v)
        (arguments [sanitizeKeyText v.key, v.description])).entitle v).recordShown names
          (shownElements ws v.kind)).close := by
  have anchored := isAnchoredBy_of_isWritten named written
  have heading := clean_heading clean
  have inside := among.of_push (c := b.onView ids true n v.kind (writtenAnchor? ws names v)
    (arguments [sanitizeKeyText v.key, v.description])) (f := .view) rfl (by decide) (by decide)
  rw [viewBlock, feedAll_block hstep (solid_viewLine anchored heading), feed_viewLine ids among anchored heading,
    read_contents ids hstep named clean (fun e he => (mem_shownElements.1 he).1) finite (depth + 1) (n + 1) inside rfl]

/-! ## The section -/

theorem renameLast_concat (name : String) (vs : List PendingView) (p : PendingView) :
    renameLast name (vs ++ [p]) = vs ++ [{ p with view := { p.view with name } }] := by
  induction vs with
  | nil => rfl
  | cons q vs ih =>
    cases h : vs ++ [p] with
    | nil => exact absurd h (by simp)
    | cons r rs => rw [List.cons_append, h, renameLast, ← h, ih, List.cons_append]; simp

/-- These views were taken in, as far as they are written, and the positions that they record. -/
structure Presents (ws : Workspace) (names : Allocation) (vs : List View) (b c : Builder) : Prop
    extends Untouched b c where
  views : ∃ ps, c.views = b.views ++ ps ∧ List.Forall₂ (PendingView.Reads ws names) (vs.filter (isWritten ws names)) ps
  positions : c.positions = Positions.recordAll b.table b.positions
    (((vs.filter (isWritten ws names)).flatMap fun v => shownElements ws v.kind).map (recordOf names))

namespace Presents

variable {vs us : List View}

theorem nil (b : Builder) : Presents ws names [] b b := ⟨Untouched.refl b, ⟨[], by simp, .nil⟩, rfl⟩

theorem append (h : Presents ws names vs b c) (h' : Presents ws names us c d) : Presents ws names (vs ++ us) b d := by
  obtain ⟨ps, hps, reads⟩ := h.views
  obtain ⟨qs, hqs, reads'⟩ := h'.views
  refine ⟨h.toUntouched.trans h'.toUntouched, ⟨ps ++ qs, by rw [hqs, hps, List.append_assoc], ?_⟩, ?_⟩
  · rw [List.filter_append]
    exact List.rel_append reads reads'
  · rw [h'.positions, h.positions, h.table, List.filter_append, List.flatMap_append, List.map_append,
      Positions.recordAll, Positions.recordAll, Positions.recordAll, List.foldl_append]

end Presents

/-- The view that its header adds and its title names. -/
theorem exists_entitle_onView (ws : Workspace) (names : Allocation) (ids : IdSource) (b : Builder)
    (clean : AllClean (viewTexts v)) (n : Nat) :
    ∃ p : PendingView, PendingView.Reads ws names v p ∧
      ((b.onView ids true n v.kind (writtenAnchor? ws names v)
        (arguments [sanitizeKeyText v.key, v.description])).entitle v).views = b.views ++ [p] := by
  have read : quotedArguments (arguments [sanitizeKeyText v.key, v.description]) =
      [sanitizeKeyText v.key, v.description] := quotedArguments_arguments (clean_heading clean)
  cases titled : hasTitle v with
  | true =>
    rw [entitle, if_pos titled]
    refine ⟨_, ⟨rfl, fun some => ?_, (if_pos titled).symm, ?_, rfl, rfl, rfl⟩, renameLast_concat _ _ _⟩
    · simp only [read, List.getElem?_cons_zero, Option.getD_some, sanitizeKeyText_idem, some, if_false]
    · simp only [read]
      rfl
  | false =>
    rw [entitle, titled, if_neg (by decide)]
    refine ⟨_, ⟨rfl, fun some => ?_, ?_, ?_, rfl, rfl, rfl⟩, rfl⟩
    · simp only [read, List.getElem?_cons_zero, Option.getD_some, sanitizeKeyText_idem, some, if_false]
    · simp only [read, titled]
      rfl
    · simp only [read]
      rfl

theorem presents_view (ids : IdSource) (hstep : IsIndent step) (named : names.Names ws.elements)
    (written : isWritten ws names v = true) (clean : AllClean (viewTexts v))
    (finite : HasFinitePositions (shownElements ws v.kind)) (depth n : Nat) (among : b.AmongViews) :
    Presents ws names [v] b (b.feedAll ids (statementsAt n ((viewBlock ws names v).lines step depth))) := by
  have only : [v].filter (isWritten ws names) = [v] := by rw [List.filter_cons_of_pos written, List.filter_nil]
  obtain ⟨p, reads, views⟩ := exists_entitle_onView ws names ids b clean n
  rw [read_viewBlock ids hstep named written clean finite depth n among]
  refine ⟨⟨⟨rfl, rfl, rfl, rfl⟩, rfl⟩, ⟨[p], views, ?_⟩, ?_⟩
  · rw [only]
    exact .cons reads .nil
  · rw [only, List.flatMap_cons, List.flatMap_nil, List.append_nil]
    rfl

theorem presents_views (ids : IdSource) (hstep : IsIndent step) (named : names.Names ws.elements)
    (finite : HasFinitePositions (shownInViews ws names))
    (clean : ∀ v ∈ ws.views, isWritten ws names v = true → AllClean (viewTexts v)) {vs : List View}
    (known : ∀ v ∈ vs, v ∈ ws.views) (depth n : Nat) (among : b.AmongViews) :
    Presents ws names vs b (b.feedOutlines ids step depth n (vs.map (viewParts ws names)).flatten) := by
  induction vs generalizing b n with
  | nil => exact Presents.nil b
  | cons v vs ih =>
    obtain ⟨hv, known⟩ := List.forall_mem_cons.1 known
    obtain ⟨m, e⟩ := b.feedOutlines_append ids step depth n (viewParts ws names v) (vs.map (viewParts ws names)).flatten
    have first : Presents ws names [v] b (b.feedOutlines ids step depth n (viewParts ws names v)) := by
      unfold viewParts
      split
      · next written =>
        obtain ⟨m', e'⟩ := b.feedOutlines_cons ids step depth n (viewBlock ws names v) [.gap]
        rw [e']
        exact presents_view ids hstep named written (clean v hv written) (finite_shownElements finite hv written)
          depth n among
      · next unwritten =>
        have none : [v].filter (isWritten ws names) = [] := by simp [unwritten]
        rw [show b.feedOutlines ids step depth n [] = b from rfl]
        exact ⟨Untouched.refl b, ⟨[], (List.append_nil _).symm, by rw [none]; exact .nil⟩, by rw [none]; rfl⟩
    rw [List.map_cons, List.flatten_cons, e]
    exact first.append (ih known m (among.of_stack first.stack))

/-- The views and positions of the section were taken in, and nothing else was. Without a view, the context
of a system may have been. -/
structure ReadsViews (ws : Workspace) (names : Allocation) (b c : Builder) : Prop extends Untouched b c where
  positions : c.positions = Positions.recordAll b.table b.positions ((shownInViews ws names).map (recordOf names))
  views : ws.views ≠ [] →
    ∃ ps, c.views = b.views ++ ps ∧ List.Forall₂ (PendingView.Reads ws names) (writtenViews ws names) ps

/-- The context records no positions. -/
theorem read_context (ids : IdSource) (hstep : IsIndent step) (named : names.Names ws.elements) (depth n : Nat)
    (among : b.AmongViews) :
    Untouched b (b.feedOutlines ids step depth n (contextOutlines ws names)) ∧
      (b.feedOutlines ids step depth n (contextOutlines ws names)).positions = b.positions := by
  rw [contextOutlines_eq]
  split
  · next system found =>
    have includes : "include *".toList ∈ plainLines := by decide
    have arranges : "autoLayout lr".toList ∈ plainLines := by decide
    have anchored := isAnchoredBy_context named (List.mem_of_find?_eq_some found)
    have inside := among.of_push (c := b.onView ids true n .systemContext (some (identifierOf names system.id))
      (arguments ["Context", "Context View"])) (f := .view) rfl (by decide) (by decide)
    obtain ⟨m, e⟩ := b.feedOutlines_cons ids step depth n
      (.block (viewLine .systemContext (some (identifierOf names system.id)) "Context" "Context View")
        [includeLine, arrangementLine]) [.gap]
    obtain ⟨m', e'⟩ := (b.onView ids true n .systemContext (some (identifierOf names system.id))
      (arguments ["Context", "Context View"])).feedOutlines_cons ids step (depth + 1) (n + 1) includeLine
        [arrangementLine]
    rw [e, feedAll_block hstep (solid_viewLine anchored clean_context), feed_viewLine ids among anchored clean_context,
      e', includeLine, feedAll_line hstep (solid_plainLine includes), feed_plainLine ids inside includes,
      arrangementLine, feedOutlines_line hstep (solid_plainLine arranges), feed_plainLine ids inside arranges]
    exact ⟨⟨⟨rfl, rfl, rfl, rfl⟩, rfl⟩, rfl⟩
  · exact ⟨Untouched.refl b, rfl⟩

/-- The styles are skipped, and their block is closed again. -/
theorem read_styles (ids : IdSource) (hstep : IsIndent step) (depth n : Nat) (reading : b.isSkipping = false) :
    b.feedOutlines ids step depth n [stylesOutline] = b := by
  have styles : ("styles".toList, Frame.styles) ∈ sections := by decide
  have inStyles : (b.push .styles).inStyles = true := by simp [Builder.inStyles, push]
  rw [feedOutlines, Outline.linesOf, Outline.linesOf, List.append_nil, stylesOutline,
    feedAll_block hstep (solid_section styles), feed_section ids styles reading,
    skipped_outlines ids hstep (depth + 1) (n + 1) _ inStyles _ readable_styles]
  rfl

/-- The views, or the context where there are none. -/
theorem reads_views (ids : IdSource) (hstep : IsIndent step) (named : names.Names ws.elements)
    (finite : HasFinitePositions (shownInViews ws names))
    (clean : ∀ v ∈ ws.views, isWritten ws names v = true → AllClean (viewTexts v)) (depth n : Nat)
    (among : b.AmongViews) :
    ReadsViews ws names b (b.feedOutlines ids step depth n
      ((if ws.views.isEmpty then contextOutlines ws names else []) ++ (ws.views.map (viewParts ws names)).flatten)) := by
  cases hv : ws.views with
  | nil =>
    have noneShown : shownInViews ws names = [] := by simp [shownInViews, writtenViews, hv]
    obtain ⟨untouched, positions⟩ := read_context ids hstep named depth n among
    rw [List.isEmpty_nil, if_pos rfl, List.map_nil, List.flatten_nil, List.append_nil]
    exact ⟨untouched, by rw [noneShown]; exact positions, fun some => absurd hv some⟩
  | cons v vs =>
    have presents := presents_views ids hstep named finite clean (fun _ known => known) depth n among
    rw [hv] at presents
    rw [List.isEmpty_cons, if_neg (by decide), List.nil_append]
    refine ⟨presents.toUntouched, ?_, fun _ => ?_⟩
    · rw [shownInViews, writtenViews, hv]
      exact presents.positions
    · rw [writtenViews, hv]
      exact presents.views

theorem reads_section (ids : IdSource) (hstep : IsIndent step) (named : names.Names ws.elements)
    (finite : HasFinitePositions (shownInViews ws names))
    (clean : ∀ v ∈ ws.views, isWritten ws names v = true → AllClean (viewTexts v)) (depth n : Nat)
    (reading : b.isSkipping = false) :
    ReadsViews ws names b
      (b.feedAll ids (statementsAt n ((Outline.block "views".toList (sectionParts ws names)).lines step depth))) := by
  have views : ("views".toList, Frame.views) ∈ sections := by decide
  have among : (b.push .views).AmongViews := by
    have noStyles : b.inStyles = false := (Bool.or_eq_false_iff.1 reading).1
    refine ⟨by simp [Builder.inViews, push], ?_⟩
    rw [isSkipping, inStyles, push]
    simpa [inStyles] using noStyles
  obtain ⟨m, e⟩ := (b.push .views).feedOutlines_append ids step (depth + 1) (n + 1)
    ((if ws.views.isEmpty then contextOutlines ws names else []) ++ (ws.views.map (viewParts ws names)).flatten)
    [stylesOutline]
  have reads := reads_views ids hstep named finite clean (depth + 1) (n + 1) among
  rw [feedAll_block hstep (solid_section views), feed_section ids views reading, sectionParts, e,
    read_styles ids hstep (depth + 1) m (among.of_stack reads.stack).reading]
  exact ⟨reads.toUntouched.close, reads.positions, reads.views⟩

end Builder

end Dsl

end Blueprint
