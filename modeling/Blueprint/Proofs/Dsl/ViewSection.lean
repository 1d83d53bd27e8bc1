/-
  Blueprint.Proofs.Dsl.ViewSection — the views that are written for a workspace.

  A view is written unless it has no anchor that it needs. Its block says its key, its description and,
  perhaps, its name, and records the positions of the elements that it shows, which have to be finite. A
  reader takes in one view for each block, with the anchor by its identifier, and the positions in their
  order. The styles are the same for every workspace and say nothing to it.

  Proved: what is written for the views (`viewsOutline_eq`), and only with finite positions
  (`finite_of_viewsOutline`); and that it can be read (`readable_views`).
-/

import Blueprint.Proofs.Dsl.Connections
import Blueprint.Proofs.Except

namespace Blueprint.Dsl

open Text

/-! ## What is written -/

/-- What the view is about, as it is written; nothing for a landscape or where it cannot be named. -/
def writtenAnchor? (ws : Workspace) (names : Allocation) (v : View) : Option (List Char) :=
  match v.kind with
  | .systemLandscape => none
  | .deployment => some (deploymentAnchor ws names v)
  | _ => (v.anchorId.bind names.get?).map String.toList

/-- The view is a landscape or a deployment view, or its anchor can be named. -/
def isWritten (ws : Workspace) (names : Allocation) (v : View) : Bool := (anchorText? ws names v).isSome

def writtenViews (ws : Workspace) (names : Allocation) : List View := ws.views.filter (isWritten ws names)

/-- The elements whose positions the views record, view by view. -/
def shownInViews (ws : Workspace) (names : Allocation) : List Element :=
  (writtenViews ws names).flatMap fun v => shownElements ws v.kind

/-- The name of a view is written unless it says nothing or is the key. -/
def hasTitle (v : View) : Bool := v.name != "" && v.name != v.key

/-- The texts that stand in quotes where a view is written, but for the key. -/
def viewTexts (v : View) : List String := v.description :: if hasTitle v then [v.name] else []

def recordLine (names : Allocation) (e : Element) : Outline :=
  .line (note (recordText (identifierOf names e.id) e.position))

def viewBlock (ws : Workspace) (names : Allocation) (v : View) : Outline :=
  .block (viewLine v.kind (writtenAnchor? ws names v) (sanitizeKeyText v.key) v.description)
    (titleLines v ++ includeLine :: (shownElements ws v.kind).map (recordLine names) ++ [arrangementLine])

def viewParts (ws : Workspace) (names : Allocation) (v : View) : List Outline :=
  if isWritten ws names v then [viewBlock ws names v, .gap] else []

def sectionParts (ws : Workspace) (names : Allocation) : List Outline :=
  (if ws.views.isEmpty then contextOutlines ws names else []) ++ (ws.views.map (viewParts ws names)).flatten ++
    [stylesOutline]

/-- Every coordinate is a number. -/
def HasFinitePositions (es : List Element) : Prop :=
  ∀ e ∈ es, e.position.x.isFinite = true ∧ e.position.y.isFinite = true

instance (es : List Element) : Decidable (HasFinitePositions es) := List.decidableBAll _ es

variable {ws : Workspace} {names : Allocation} {v : View}

theorem mem_shownElements {kind : ViewKind} {e : Element} :
    e ∈ shownElements ws kind ↔ e ∈ ws.elements ∧ e.kind ∈ kind.visibleKinds := by
  simp [shownElements]

theorem mem_shownInViews {e : Element} : e ∈ shownInViews ws names ↔
    e ∈ ws.elements ∧ ∃ v ∈ ws.views, isWritten ws names v = true ∧ e.kind ∈ v.kind.visibleKinds := by
  simp only [shownInViews, writtenViews, List.mem_flatMap, List.mem_filter, mem_shownElements]
  exact ⟨fun ⟨v, ⟨hv, written⟩, he, kind⟩ => ⟨he, v, hv, written, kind⟩,
    fun ⟨he, v, hv, written, kind⟩ => ⟨v, ⟨hv, written⟩, he, kind⟩⟩

theorem HasFinitePositions.shown (finite : HasFinitePositions ws.elements) (names : Allocation) :
    HasFinitePositions (shownInViews ws names) := fun e he => finite e (mem_shownInViews.1 he).1

theorem finite_shownElements (finite : HasFinitePositions (shownInViews ws names)) (hv : v ∈ ws.views)
    (written : isWritten ws names v = true) : HasFinitePositions (shownElements ws v.kind) := by
  intro e he
  obtain ⟨member, kind⟩ := mem_shownElements.1 he
  exact finite e (mem_shownInViews.2 ⟨member, v, hv, written, kind⟩)

theorem anchorText?_eq {anchor : List Char} (h : anchorText? ws names v = some anchor) :
    anchor = (writtenAnchor? ws names v).elim [] (· ++ [' ']) := by
  unfold anchorText? at h
  unfold writtenAnchor?
  cases hk : v.kind
  all_goals simp only [hk] at h ⊢
  case systemLandscape => exact (Option.some.inj h).symm
  case deployment => exact (Option.some.inj h).symm
  all_goals
    obtain ⟨name, found, rfl⟩ := Option.map_eq_some_iff.1 h
    rw [found]
    rfl

theorem viewHeader_eq {anchor : List Char} (h : anchorText? ws names v = some anchor) :
    viewHeader v anchor = viewLine v.kind (writtenAnchor? ws names v) (sanitizeKeyText v.key) v.description := by
  have key : (sanitizeKeyText v.key).toList = sanitizeKey v.key.toList := String.toList_ofList
  rw [anchorText?_eq h, viewLine, viewHeader]
  cases writtenAnchor? ws names v <;> simp [arguments, key]

theorem positionLine_eq {e : Element} (x : e.position.x.isFinite = true) (y : e.position.y.isFinite = true) :
    positionLine names e = .ok (recordLine names e) := by
  have text : note (recordText (identifierOf names e.id) e.position) = "# element ".toList ++ identifierOf names e.id ++
      ' ' :: coordinateText e.position.x ++ ' ' :: coordinateText e.position.y := by
    have start : "# element ".toList = "# ".toList ++ "element ".toList := rfl
    rw [note, recordText_eq, start]
    simp only [List.append_assoc, List.cons_append]
  rw [positionLine, wholeText_eq x, wholeText_eq y, recordLine, text]
  rfl

theorem viewOutlines_eq (finite : isWritten ws names v = true → HasFinitePositions (shownElements ws v.kind)) :
    viewOutlines ws names v = .ok (viewParts ws names v) := by
  rw [viewOutlines, viewParts]
  cases h : anchorText? ws names v with
  | none =>
    rw [isWritten, h]
    rfl
  | some anchor =>
    have written : isWritten ws names v = true := by rw [isWritten, h]; rfl
    have positions : (shownElements ws v.kind).mapM (positionLine names) =
        .ok ((shownElements ws v.kind).map (recordLine names)) :=
      mapM_eq_ok_map fun e he => positionLine_eq (finite written e he).1 (finite written e he).2
    rw [if_pos written, viewBlock, ← viewHeader_eq h]
    simp only [positions]
    rfl

theorem viewsOutline_eq (finite : HasFinitePositions (shownInViews ws names)) :
    viewsOutline ws names = .ok (.block "views".toList (sectionParts ws names)) := by
  rw [viewsOutline, mapM_eq_ok_map fun v hv => viewOutlines_eq (finite_shownElements finite hv)]
  rfl

theorem finite_of_wholeText {x : Binary64} {text : List Char} (h : wholeText x = .ok text) : x.isFinite = true := by
  cases x with
  | finite negative m e => rfl
  | infinite negative => cases h
  | undefined => cases h

/-- Where the views could be written, the positions that they record are finite. -/
theorem finite_of_viewsOutline {o : Outline} (h : viewsOutline ws names = .ok o) :
    HasFinitePositions (shownInViews ws names) := by
  intro e he
  obtain ⟨member, v, hv, written, kind⟩ := mem_shownInViews.1 he
  obtain ⟨_, outlines, _⟩ := bind_eq_ok.1 h
  obtain ⟨parts, one⟩ := eq_ok_of_mapM outlines hv
  obtain ⟨anchor, ha⟩ := Option.isSome_iff_exists.1 written
  simp only [viewOutlines, ha] at one
  obtain ⟨_, positions, _⟩ := bind_eq_ok.1 one
  obtain ⟨_, line⟩ := eq_ok_of_mapM positions (mem_shownElements.2 ⟨member, kind⟩)
  obtain ⟨_, hx, line⟩ := bind_eq_ok.1 line
  obtain ⟨_, hy, _⟩ := bind_eq_ok.1 line
  exact ⟨finite_of_wholeText hx, finite_of_wholeText hy⟩

/-! ## That it can be read -/

theorem isClean_sanitizeKey (cs : List Char) : IsClean (sanitizeKey cs) := by
  intro c hc
  have char := isKeyChar_of_mem_sanitizeKey hc
  refine ⟨?_, fun boundary => ?_⟩
  · rintro rfl
    cases char
  · have blank := isBlank_of_isLineBoundary boundary
    rw [not_isBlank_of_isKeyChar char] at blank
    cases blank

theorem clean_viewTexts (h : v.IsWritable) : AllClean (viewTexts v) := by
  unfold viewTexts hasTitle
  refine allClean_cons.2 ⟨h.description, ?_⟩
  split
  · next titled =>
    obtain ⟨some, other⟩ : v.name ≠ "" ∧ v.name ≠ v.key := by simpa using titled
    exact allClean_singleton.2 (h.name some other)
  · exact fun _ hv => by cases hv

theorem clean_heading (clean : AllClean (viewTexts v)) : AllClean [sanitizeKeyText v.key, v.description] := by
  have key : (sanitizeKeyText v.key).toList = sanitizeKey v.key.toList := String.toList_ofList
  exact allClean_cons.2 ⟨key ▸ isClean_sanitizeKey _, allClean_singleton.2 (allClean_cons.1 clean).1⟩

theorem word_of_get? (named : names.Names ws.elements) {id i : String} (h : names.get? id = some i) :
    IsWord i.toList := by
  obtain ⟨e, he, rfl⟩ := List.mem_map.1 (named.known id i h)
  obtain ⟨j, hj, word, _⟩ := named.named e he
  rw [hj] at h
  exact Option.some.inj h ▸ word

theorem word_identifierOf (named : names.Names ws.elements) {e : Element} (he : e ∈ ws.elements) :
    IsWord (identifierOf names e.id) := by
  obtain ⟨i, hi, word, _⟩ := named.named e he
  rw [identifierOf, hi]
  exact word

theorem isAnchor_deploymentAnchor (named : names.Names ws.elements) (v : View) :
    IsAnchor (deploymentAnchor ws names v) := by
  unfold deploymentAnchor
  split
  · next e found => exact .inl (word_identifierOf named (List.mem_of_find?_eq_some found))
  · exact .inr rfl

theorem isAnchoredBy_of_isWritten (named : names.Names ws.elements) (written : isWritten ws names v = true) :
    IsAnchoredBy v.kind (writtenAnchor? ws names v) := by
  unfold isWritten anchorText? at written
  unfold writtenAnchor?
  cases hk : v.kind
  all_goals simp only [hk] at written
  case systemLandscape => exact .inl ⟨rfl, rfl⟩
  case deployment => exact .inr ⟨by decide, _, rfl, isAnchor_deploymentAnchor named v⟩
  all_goals
    obtain ⟨text, hname⟩ := Option.isSome_iff_exists.1 written
    obtain ⟨name, found, _⟩ := Option.map_eq_some_iff.1 hname
    obtain ⟨id, _, hi⟩ := Option.bind_eq_some_iff.1 found
    exact .inr ⟨by decide, name.toList, by rw [found]; rfl, .inl (word_of_get? named hi)⟩

theorem titleLines_eq (v : View) : titleLines v = if hasTitle v then [.line (titleLine v.name)] else [] := rfl

/-- The lines that stand in the block of every view and say nothing to a reader. -/
def plainLines : List (List Char) := ["include *".toList, "autoLayout lr".toList]

theorem solid_plainLine {text : List Char} (h : text ∈ plainLines) : Solid text := by
  have all : ∀ text ∈ plainLines, Solid text := by decide
  exact all text h

open Outline

theorem readable_viewParts (named : names.Names ws.elements) (hv : v ∈ ws.views)
    (finite : HasFinitePositions (shownInViews ws names))
    (clean : isWritten ws names v = true → AllClean (viewTexts v)) : AreReadable (viewParts ws names v) := by
  unfold viewParts
  split
  · next written =>
    have texts := clean written
    refine ⟨⟨solid_viewLine (isAnchoredBy_of_isWritten named written) (clean_heading texts), ?_⟩, trivial, trivial⟩
    refine areReadable_iff.2 (List.forall_mem_append.2 ⟨List.forall_mem_append.2 ⟨?_, List.forall_mem_cons.2
      ⟨.inl (solid_plainLine (by decide)), fun o ho => ?_⟩⟩,
      List.forall_mem_singleton.2 (.inl (solid_plainLine (by decide)))⟩)
    · rw [titleLines_eq]
      unfold viewTexts at texts
      split
      · next titled =>
        rw [if_pos titled] at texts
        exact List.forall_mem_singleton.2 (.inl (solid_titleLine (allClean_singleton.1 (allClean_cons.1 texts).2)))
      · exact List.forall_mem_nil _
    · obtain ⟨e, he, rfl⟩ := List.mem_map.1 ho
      have word := word_identifierOf named (mem_shownElements.1 he).1
      exact .inr ⟨_, rfl, isNote_recordText word (finite_shownElements finite hv written e he).2⟩
  · trivial

theorem contextOutlines_eq (ws : Workspace) (names : Allocation) : contextOutlines ws names =
    match ws.elements.find? (·.kind == .softwareSystem) with
    | some system =>
      [.block (viewLine .systemContext (some (identifierOf names system.id)) "Context" "Context View")
        [includeLine, arrangementLine], .gap]
    | none => [] := by
  unfold contextOutlines
  cases ws.elements.find? (·.kind == .softwareSystem) with
  | none => rfl
  | some system =>
    have start : "systemContext ".toList = ViewKind.systemContext.keyword.toList ++ [' '] := by decide
    have tail : " \"Context\" \"Context View\"".toList = arguments ["Context", "Context View"] := by decide
    have header : "systemContext ".toList ++ identifierOf names system.id ++ " \"Context\" \"Context View\"".toList =
        viewLine .systemContext (some (identifierOf names system.id)) "Context" "Context View" := by
      rw [start, tail, viewLine, Option.elim_some, List.append_assoc, List.append_assoc]
      rfl
    exact congrArg (fun header => [Outline.block header [includeLine, arrangementLine], .gap]) header

theorem clean_context : AllClean ["Context", "Context View"] := by decide

theorem isAnchoredBy_context (named : names.Names ws.elements) {system : Element} (h : system ∈ ws.elements) :
    IsAnchoredBy .systemContext (some (identifierOf names system.id)) :=
  .inr ⟨by decide, _, rfl, .inl (word_identifierOf named h)⟩

theorem readable_contextOutlines (named : names.Names ws.elements) : AreReadable (contextOutlines ws names) := by
  rw [contextOutlines_eq]
  split
  · next system found =>
    have anchored := isAnchoredBy_context named (List.mem_of_find?_eq_some found)
    exact ⟨⟨solid_viewLine anchored clean_context, .inl (solid_plainLine (by decide)),
      .inl (solid_plainLine (by decide)), trivial⟩, trivial, trivial⟩
  · trivial

theorem solid_style : ∀ s ∈ styles, Solid ("element ".toList ++ quote s.tag.toList) ∧
    (∀ shape ∈ s.shape, Solid ("shape ".toList ++ shape.toList)) ∧
      Solid ("background ".toList ++ s.background.toList) ∧
    Solid ("color ".toList ++ s.color.toList) := by decide

theorem readable_styles : AreReadable (styles.map Style.outline) := by
  refine areReadable_iff.2 fun o ho => ?_
  obtain ⟨s, hs, rfl⟩ := List.mem_map.1 ho
  obtain ⟨header, shape, background, color⟩ := solid_style s hs
  refine ⟨header, ?_⟩
  have rest : AreReadable [.line ("background ".toList ++ s.background.toList),
    .line ("color ".toList ++ s.color.toList)] :=
    ⟨.inl background, .inl color, trivial⟩
  cases hshape : s.shape with
  | none => exact rest
  | some name => exact ⟨.inl (shape name hshape), rest⟩

theorem readable_views (named : names.Names ws.elements) (finite : HasFinitePositions (shownInViews ws names))
    (clean : ∀ v ∈ ws.views, isWritten ws names v = true → AllClean (viewTexts v)) :
    (Outline.block "views".toList (sectionParts ws names)).IsReadable := by
  have views : ("views".toList, Frame.views) ∈ Builder.sections := by decide
  have styles : ("styles".toList, Frame.styles) ∈ Builder.sections := by decide
  refine ⟨Builder.solid_section views, areReadable_iff.2 (List.forall_mem_append.2 ⟨List.forall_mem_append.2
    ⟨fun o ho => ?_, fun o ho => ?_⟩, ?_⟩)⟩
  · split at ho
    · exact areReadable_iff.1 (readable_contextOutlines named) o ho
    · cases ho
  · obtain ⟨parts, hparts, ho⟩ := List.mem_flatten.1 ho
    obtain ⟨v, hv, rfl⟩ := List.mem_map.1 hparts
    exact areReadable_iff.1 (readable_viewParts named hv finite (clean v hv)) o ho
  · exact List.forall_mem_singleton.2 ⟨Builder.solid_section styles, readable_styles⟩

end Blueprint.Dsl
