/-
  Blueprint.Proofs.Dsl.Views — statements among the views.

  A view's header begins with the keyword of its kind; behind it stands what the view is about, a name or a
  star, unless it is a landscape, and then the key and the description. In the view's block a title takes
  the place of the name and a note records a position, and other lines say nothing. What stands in the
  styles is skipped, and its blocks only open and close.

  Proved: the clauses of headers, titles and notes (`classify_viewLine`, `classify_title`,
  `classify_record`); a readable outline in the styles changes nothing (`skipped_outlines`).
-/

import Blueprint.Proofs.Dsl.Coordinates
import Blueprint.Proofs.Dsl.Writable

namespace Blueprint.Dsl

open Text

/-! ## Words among the views -/

section Words

variable {s : Statement} {w rest : List Char}

/-- A line that begins with another word is no directive for a position. -/
theorem noDirective_of_word (word : IsWord w) (notElement : w ≠ "element".toList)
    (notPosition : w ≠ "position".toList) (rest : List Char) :
    elementPosition? (w ++ ' ' :: rest) = none ∧ viewElement? (w ++ ' ' :: rest) = none ∧
      position? (w ++ ' ' :: rest) = none := by
  have element : IsWord "element".toList := by decide
  have position : IsWord "position".toList := by decide
  exact ⟨unread_of_word element word notElement rest _, unread_of_word element word notElement rest _,
    unread_of_word position word notPosition rest _⟩

theorem viewClause_of_word (text : s.text = w ++ ' ' :: rest) (word : IsWord w) (notElement : w ≠ "element".toList)
    (notPosition : w ≠ "position".toList) (notTitle : w ≠ "title".toList) :
    viewClause s = (view? s.body).getD .unknown := by
  have titleWord : IsWord "title".toList := by decide
  have title : viewTitle? (w ++ ' ' :: rest) = none := unread_of_word titleWord word notTitle rest _
  obtain ⟨elementPosition, viewElement, position⟩ := noDirective_of_word word notElement notPosition rest
  rw [viewClause, text, elementPosition, viewElement, position, title]
  rfl

end Words

/-! ## Titles -/

theorem viewTitle?_quote {title : List Char} (clean : IsClean title) :
    viewTitle? ("title".toList ++ ' ' :: quote title) = some (.viewTitle (escape title)) := by
  have closed : quoted? (quote title) = some (escape title, []) := closeQuote_escape clean []
  have blanks : dropBlanks? (' ' :: quote title) = some (quote title) := rfl
  rw [viewTitle?, dropWord?_append]
  simp only [Option.bind_eq_bind, Option.bind_some, blanks, closed]
  rfl

def titleLine (title : String) : List Char := "title".toList ++ ' ' :: quote title.toList

theorem solid_titleLine {title : String} (clean : IsClean title.toList) : Solid (titleLine title) := by
  have word : IsWord "title".toList := by decide
  have text : titleLine title = "title".toList ++ arguments [title] := by simp [titleLine, arguments]
  rw [text]
  exact solid_word word (by simp) (allClean_singleton.2 clean)

theorem classify_title {title : String} (clean : IsClean title.toList) (n : Nat) :
    classify { text := titleLine title, line := n } true = .viewTitle (escape title.toList) := by
  have word : IsWord "title".toList := by decide
  have tells := tells_line (solid_titleLine clean) n
  obtain ⟨elementPosition, viewElement, position⟩ :=
    noDirective_of_word word (by decide) (by decide) (quote title.toList)
  rw [classify_of_word true tells.body tells.notClose word (by decide), if_pos rfl, viewClause, titleLine,
    elementPosition, viewElement, position, viewTitle?_quote clean]
  rfl

/-! ## Notes -/

/-- What a note says of where an element stands. -/
def recordText (w : List Char) (p : Position) : List Char :=
  "element ".toList ++ (w ++ ' ' :: (coordinateText p.x ++ ' ' :: coordinateText p.y))

theorem recordText_eq (w : List Char) (p : Position) : recordText w p =
    "element ".toList ++ (w ++ ' ' :: (coordinateText p.x ++ ' ' :: coordinateText p.y)) := rfl

section Record

variable {w : List Char} (word : IsWord w) {p : Position}

include word

theorem isNote_recordText (finite : p.y.isFinite = true) : IsNote (recordText w p) := by
  have blank : IsFlat [' '] := by decide
  have element : IsFlat "element ".toList := by decide
  obtain ⟨d, hd⟩ := Option.isSome_iff_exists.1 (List.getLast?_isSome.2 (coordinateText_ne_nil finite))
  obtain ⟨notBlank, _, notOpening, _, notBackslash⟩ :=
    numberChar_facts (isNumberChar_of_mem_coordinateText (List.mem_of_getLast? hd))
  refine ⟨⟨⟨'e', ?_, by decide⟩, ⟨d, ?_, mayEnd_iff.2 ⟨notBlank, notBackslash, notOpening⟩⟩, ?_, ?_⟩, ?_⟩
  · rw [recordText_eq, List.head?_append]
    rfl
  · have behind : recordText w p =
        ("element ".toList ++ (w ++ ' ' :: (coordinateText p.x ++ [' ']))) ++ coordinateText p.y := by
      simp [recordText_eq]
    rw [behind, List.getLast?_append, hd]
    rfl
  · rw [recordText_eq]
    refine isUnbroken_append.2 ⟨by decide, isUnbroken_append.2 ⟨word.unbroken, isUnbroken_cons.2 ⟨by decide, ?_⟩⟩⟩
    exact isUnbroken_append.2 ⟨unbroken_coordinateText _, isUnbroken_cons.2 ⟨by decide, unbroken_coordinateText _⟩⟩
  · rw [recordText_eq]
    refine element.append ((isFlat_word word).append (blank.append ?_))
    exact (isFlat_coordinateText _).append (blank.append (isFlat_coordinateText _))
  · rw [recordText_eq]
    exact List.isPrefixOf_iff_prefix.2 (List.prefix_append _ _)

theorem classify_record (hx : p.x.isFinite = true) (hy : p.y.isFinite = true) (n : Nat) :
    classify { text := recordText w p, line := n, fromComment := true } true =
      .elementPosition w (wholeNumeral p.x.nearest) (wholeNumeral p.y.nearest) := by
  have solid := (isNote_recordText word hy).solid
  have element : IsWord "element".toList := by decide
  have body : Statement.body { text := recordText w p, line := n, fromComment := true } =
      "element".toList ++ ' ' :: (w ++ ' ' :: (coordinateText p.x ++ ' ' :: coordinateText p.y)) := by
    have start : ∀ cs : List Char, "element ".toList ++ cs = "element".toList ++ ' ' :: cs := fun _ => rfl
    rw [Statement.body, opens_solid solid, ← start, recordText_eq]
    rfl
  rw [classify_of_word true body (isClose_solid solid n true) element (by decide), if_pos rfl, viewClause]
  have read : elementPosition? (recordText w p) =
      some (.elementPosition w (wholeNumeral p.x.nearest) (wholeNumeral p.y.nearest)) :=
    elementPosition?_record word hx hy
  rw [read]
  rfl

end Record

/-! ## Headers -/

/-- What a view may be about: a name, or a star that stands for nothing. -/
def IsAnchor (cs : List Char) : Prop := IsWord cs ∨ cs = ['*']

namespace IsAnchor

variable {a : List Char}

theorem unbroken (h : IsAnchor a) : IsUnbroken a := by
  rcases h with word | rfl
  · exact word.unbroken
  · decide

theorem flat (h : IsAnchor a) : IsFlat a := by
  rcases h with word | rfl
  · exact isFlat_word word
  · decide

theorem anchor?_eq (h : IsAnchor a) (rest : List Char) : anchor? (a ++ ' ' :: rest) = some (a, ' ' :: rest) := by
  rcases h with word | rfl
  · have name := name?_word word rest
    obtain ⟨c, cs, rfl, letter, _⟩ := word
    rw [← name, List.cons_append, anchor?]
    rintro _ star
    exact ne_of_class letter rfl (List.cons.inj star).1
  · rfl

theorem dropBlanks?_eq (h : IsAnchor a) (rest : List Char) : dropBlanks? (' ' :: (a ++ rest)) = some (a ++ rest) := by
  rcases h with ⟨c, cs, rfl, letter, _⟩ | rfl
  · exact dropBlanks?_of_head (letter_not_blank letter) _
  · exact dropBlanks?_of_head (by decide) rest

end IsAnchor

/-- The header of a view: its kind, what it is about, its key and its description. -/
def viewLine (kind : ViewKind) (anchor : Option (List Char)) (key description : String) : List Char :=
  kind.keyword.toList ++ (anchor.elim [] (' ' :: ·) ++ arguments [key, description])

/-- A view has an anchor unless it is a landscape. -/
def IsAnchoredBy (kind : ViewKind) (anchor : Option (List Char)) : Prop :=
  (kind = .systemLandscape ∧ anchor = none) ∨ (kind ≠ .systemLandscape ∧ ∃ a, anchor = some a ∧ IsAnchor a)

theorem isWord_viewKeyword (kind : ViewKind) : IsWord kind.keyword.toList := by
  cases kind <;> decide

theorem view?_landscape {rest : List Char} (unbroken : IsUnbroken rest) :
    view? (ViewKind.systemLandscape.keyword.toList ++ ' ' :: rest) = some (.view .systemLandscape none (' ' :: rest)) := by
  have line : restOfLine? (' ' :: rest) = some (' ' :: rest) :=
    restOfLine?_of_unbroken (isUnbroken_cons.2 ⟨by decide, unbroken⟩)
  have keyword : keyword? "systemLandscape".toList (ViewKind.systemLandscape.keyword.toList ++ ' ' :: rest) =
      some (' ' :: rest) := by
    have ends : isWordChar ' ' = false := by decide
    rw [keyword?, ViewKind.keyword, dropWord?_append]
    simp only [Option.bind_eq_bind, Option.bind_some, ends, Bool.false_eq_true, if_false, line]
  rw [view?, keyword]

theorem view?_anchored {kind : ViewKind} (hk : kind ≠ .systemLandscape) {a rest : List Char} (h : IsAnchor a)
    (unbroken : IsUnbroken rest) :
    view? (kind.keyword.toList ++ ' ' :: (a ++ ' ' :: rest)) = some (.view kind (some a) (' ' :: rest)) := by
  have line : restOfLine? (' ' :: rest) = some (' ' :: rest) :=
    restOfLine?_of_unbroken (isUnbroken_cons.2 ⟨by decide, unbroken⟩)
  have landscape : IsWord "systemLandscape".toList := by decide
  have word := isWord_viewKeyword kind
  have other : keyword? "systemLandscape".toList (kind.keyword.toList ++ ' ' :: (a ++ ' ' :: rest)) = none :=
    keyword?_word landscape.forall_mem word (fun e => hk (eq_of_keyword ViewKind.ofKeyword?_keyword e)) _
  rw [view?, other]
  refine (findSome?_of_only (x := kind) ?_ ?_).trans ?_
  · revert hk
    cases kind <;> decide
  · intro other _ ne
    exact unread_of_word (isWord_viewKeyword other) word (fun e => ne (eq_of_keyword ViewKind.ofKeyword?_keyword e.symm)) _ _
  · rw [dropWord?_append]
    simp only [Option.bind_eq_bind, Option.bind_some, h.dropBlanks?_eq, h.anchor?_eq, line]
    rfl

variable {kind : ViewKind} {anchor : Option (List Char)} {key description : String}

theorem solid_viewLine (anchored : IsAnchoredBy kind anchor) (clean : AllClean [key, description]) :
    Solid (viewLine kind anchor key description) := by
  have word := isWord_viewKeyword kind
  rcases anchored with ⟨_, rfl⟩ | ⟨_, a, rfl, h⟩
  · exact solid_word word (by simp) clean
  · have blank : IsFlat [' '] := by decide
    have text : viewLine kind (some a) key description =
        (kind.keyword.toList ++ ' ' :: a) ++ arguments [key, description] := by simp [viewLine]
    obtain ⟨c, hc, letter⟩ := word.head
    rw [text]
    refine solid_arguments ⟨c, ?_, letter⟩ ?_ ((isFlat_word word).append (blank.append h.flat)) (by simp) clean
    · rw [List.head?_append, hc]
      rfl
    · exact isUnbroken_append.2 ⟨word.unbroken, isUnbroken_cons.2 ⟨by decide, h.unbroken⟩⟩

theorem view?_viewLine (anchored : IsAnchoredBy kind anchor) (clean : AllClean [key, description]) :
    view? (viewLine kind anchor key description) = some (.view kind anchor (arguments [key, description])) := by
  obtain ⟨rest, args⟩ : ∃ rest, arguments [key, description] = ' ' :: rest := ⟨_, rfl⟩
  have unbroken : IsUnbroken rest := (isUnbroken_cons.1 (args ▸ unbroken_arguments clean)).2
  rcases anchored with ⟨rfl, rfl⟩ | ⟨hk, a, rfl, h⟩
  · rw [viewLine, args]
    exact view?_landscape unbroken
  · rw [viewLine, args]
    exact view?_anchored hk h unbroken

theorem classify_viewLine (anchored : IsAnchoredBy kind anchor) (clean : AllClean [key, description]) (n : Nat) :
    classify { text := opening (viewLine kind anchor key description), line := n } true =
      .view kind anchor (arguments [key, description]) := by
  have tells := tells_opening (solid_viewLine anchored clean) n
  have word := isWord_viewKeyword kind
  obtain ⟨rest, tail⟩ : ∃ rest, anchor.elim [] (' ' :: ·) ++ arguments [key, description] = ' ' :: rest := by
    cases anchor <;> exact ⟨_, rfl⟩
  have header : viewLine kind anchor key description = kind.keyword.toList ++ ' ' :: rest := by rw [viewLine, tail]
  have text : opening (viewLine kind anchor key description) =
      kind.keyword.toList ++ ' ' :: (rest ++ [' ', '{']) := by simp [header, opening]
  rw [classify_of_word true (tells.body.trans header) tells.notClose word (by cases kind <;> decide), if_pos rfl,
    viewClause_of_word text word (by cases kind <;> decide) (by cases kind <;> decide) (by cases kind <;> decide),
    tells.body, view?_viewLine anchored clean]
  rfl

namespace Builder

variable {b c d : Builder}

/-! ## What stays of the model -/

/-- Nothing that makes up the model differs. -/
structure SameModel (b c : Builder) : Prop where
  elements : c.elements = b.elements
  relationships : c.relationships = b.relationships
  table : c.table = b.table
  heading : c.heading = b.heading

/-- Neither the model nor the open blocks differ. -/
structure Untouched (b c : Builder) : Prop extends SameModel b c where
  stack : c.stack = b.stack

theorem SameModel.refl (b : Builder) : SameModel b b := ⟨rfl, rfl, rfl, rfl⟩

theorem SameModel.trans (h : SameModel b c) (h' : SameModel c d) : SameModel b d :=
  ⟨h'.elements.trans h.elements, h'.relationships.trans h.relationships, h'.table.trans h.table,
    h'.heading.trans h.heading⟩

theorem Untouched.refl (b : Builder) : Untouched b b := ⟨SameModel.refl b, rfl⟩

theorem Untouched.trans (h : Untouched b c) (h' : Untouched c d) : Untouched b d :=
  ⟨h.toSameModel.trans h'.toSameModel, h'.stack.trans h.stack⟩

/-- A block in which nothing changes leaves everything as it was, once it is closed. -/
theorem Untouched.close {f : Frame} (h : Untouched (b.push f) c) : Untouched b c.close := by
  refine ⟨⟨h.elements, h.relationships, h.table, h.heading⟩, ?_⟩
  rw [Builder.close, h.stack]
  rfl

/-- Statements are read as parts of the views. -/
structure AmongViews (b : Builder) : Prop where
  inViews : b.inViews = true
  reading : b.isSkipping = false

theorem AmongViews.of_stack (h : b.AmongViews) (stack : c.stack = b.stack) : c.AmongViews := by
  refine ⟨?_, ?_⟩
  · rw [Builder.inViews, stack]
    exact h.inViews
  · rw [isSkipping, inStyles, stack]
    exact h.reading

theorem AmongViews.of_push {f : Frame} (h : b.AmongViews) (stack : c.stack = f :: b.stack)
    (notStyles : f ≠ .styles) (notBlock : f ≠ .block) : c.AmongViews := by
  have inViews := h.inViews
  have reading := h.reading
  simp only [Builder.inViews, isSkipping, inStyles, Bool.or_eq_false_iff, List.contains_eq_mem,
    decide_eq_true_eq, decide_eq_false_iff_not] at inViews reading
  refine ⟨?_, ?_⟩
  · simp [Builder.inViews, stack, inViews]
  · simp [isSkipping, inStyles, stack, notStyles.symm, notBlock, reading.1]

theorem feed_amongViews {ids : IdSource} {s : Statement} (h : b.AmongViews) (notClose : s.isClose = false) :
    b.feed ids s = b.handle ids s (classify s true) := by
  rw [feed_handled ids notClose h.reading, h.inViews]

/-! ## Sections -/

/-- The headers of the sections, each with the block that it opens. -/
def sections : List (List Char × Frame) :=
  [("model".toList, .model), ("views".toList, .views), ("styles".toList, .styles)]

theorem solid_section {header : List Char} {f : Frame} (h : (header, f) ∈ sections) : Solid header := by
  have all : ∀ p ∈ sections, Solid p.1 := by decide
  exact all _ h

/-- Where statements are read, the header of a section opens its block, whichever blocks are open. -/
theorem feed_section (ids : IdSource) {header : List Char} {f : Frame} (h : (header, f) ∈ sections)
    (reading : b.isSkipping = false) (n : Nat) :
    b.feed ids { text := opening header, line := n } = b.push f := by
  rw [feed_handled ids (tells_opening (solid_section h) n).notClose reading]
  simp only [sections, List.mem_cons, Prod.mk.injEq, List.not_mem_nil, or_false] at h
  rcases h with ⟨rfl, rfl⟩ | ⟨rfl, rfl⟩ | ⟨rfl, rfl⟩ <;> rfl

/-! ## Skipped blocks -/

theorem feed_inStyles (ids : IdSource) (inStyles : b.inStyles = true) {s : Statement} (notClose : s.isClose = false) :
    b.feed ids s = b.pushIf s.opens .block :=
  feed_skipped ids notClose (by rw [isSkipping, inStyles, Bool.true_or])

theorem inStyles_push (h : b.inStyles = true) (f : Frame) : (b.push f).inStyles = true := by
  simp only [inStyles, push, List.contains_cons, Bool.or_eq_true]
  exact .inr h

variable {step : List Char}

mutual

theorem skipped_outline (ids : IdSource) (hstep : IsIndent step) (depth n : Nat) (b : Builder)
    (inStyles : b.inStyles = true) (o : Outline) (readable : o.IsReadable) :
    b.feedAll ids (statementsAt n (o.lines step depth)) = b := by
  cases o with
  | gap => rfl
  | line text =>
    rcases readable with solid | ⟨content, rfl, isNote⟩
    · rw [feedAll_line hstep solid, feed_inStyles ids inStyles (isClose_solid solid n false), opens_solid solid]
      rfl
    · rw [feedAll_note hstep isNote, feed_inStyles ids inStyles (isClose_solid isNote.solid n true),
        opens_solid isNote.solid]
      rfl
  | block header contents =>
    obtain ⟨solid, inner⟩ := readable
    rw [feedAll_block hstep solid, feed_inStyles ids inStyles (tells_opening solid n).notClose, opens_opening,
      pushIf, if_pos rfl, skipped_outlines ids hstep (depth + 1) (n + 1) _ (inStyles_push inStyles _) contents inner]
    rfl

theorem skipped_outlines (ids : IdSource) (hstep : IsIndent step) (depth n : Nat) (b : Builder)
    (inStyles : b.inStyles = true) (os : List Outline) (readable : Outline.AreReadable os) :
    b.feedOutlines ids step depth n os = b := by
  cases os with
  | nil => rfl
  | cons o os =>
    obtain ⟨here, later⟩ := readable
    obtain ⟨m, e⟩ := feedOutlines_cons ids step depth n b o os
    rw [e, skipped_outline ids hstep depth n b inStyles o here]
    exact skipped_outlines ids hstep depth m b inStyles os later

end

end Builder

end Blueprint.Dsl
