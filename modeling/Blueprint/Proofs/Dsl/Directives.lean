/-
  Blueprint.Proofs.Dsl.Directives — the three ways to record a position (`_on_element_position`, `_on_position`,
  and the comments that `tokenize` keeps).

  In a view, a position is recorded by a line of its own, by the same line in a comment, or by a block that
  names the element and has the coordinates inside. All three are meant to do the same, so that a document
  that other programs read can carry its layout in comments. The pieces of a line may stand apart by any blanks;
  but a comment is read only if `element` is followed by a space, whatever else would do for a gap.

  Proved: what each of the lines says (`classify_elementPosition`, `classify_viewElement`, `classify_position`),
  and that the three ways do the same, the comment just if a space follows `element` (`feedAll_threeWays`).
  A tab in its place loses the position without a word (`not_feedAll_threeWays_tab`).
-/

import Blueprint.Dsl.Builder
import Blueprint.Proofs.Dsl.Coordinates
import Blueprint.Proofs.Identifier.Source

namespace Blueprint.Dsl

open Text

variable {gap gap' gap'' name : List Char} {x y : Numeral}

/-! ## What the lines say -/

/-- A line in an element's block. -/
def positionText (gap : List Char) (x : Numeral) (gap' : List Char) (y : Numeral) : List Char :=
  "position".toList ++ (gap ++ coordinates x gap' y)

theorem dropWord?_other {word text : List Char} {c : Char} (first : text.head? = some c)
    (other : word.head? ≠ some c) (nonempty : word ≠ []) : dropWord? word text = none := by
  obtain ⟨d, ds, rfl⟩ := List.exists_cons_of_ne_nil nonempty
  obtain ⟨cs, rfl⟩ := List.head?_eq_some_iff.1 first
  have ne : d ≠ c := fun e => other (congrArg some e)
  simp [dropWord?, ne]

theorem viewElement?_text (h : IsGap gap) (named : IsName name) (h' : IsGap gap') :
    viewElement? (elementText gap name gap' ['{']) = some (.viewElement name) := by
  have brace : trimLeft (gap' ++ ['{']) = ['{'] := dropWhile_run h'.blank (by rintro _ ⟨⟩; decide)
  rw [viewElement?, dropWord?_elementText]
  simp only [Option.bind_eq_bind, Option.bind_some, dropBlanks?_name h named, name?_append named (h'.ends_name _),
    brace]
  rfl

theorem elementPosition?_opening (h : IsGap gap) (named : IsName name) (h' : IsGap gap') :
    elementPosition? (elementText gap name gap' ['{']) = none := by
  have brace : dropBlanks? (gap' ++ ['{']) = some ['{'] := dropBlanks?_gap h' (by rintro _ ⟨⟩; decide)
  rw [elementPosition?, dropWord?_elementText]
  simp only [Option.bind_eq_bind, Option.bind_some, dropBlanks?_name h named, name?_append named (h'.ends_name _),
    brace]
  rfl

theorem position?_text (h : IsGap gap) (hx : x.IsWritten) (h' : IsGap gap') (hy : y.IsWritten) :
    position? (positionText gap x gap' y) = some (.position x y) := by
  have word : dropWord? "position".toList (positionText gap x gap' y) = some (gap ++ coordinates x gap' y) :=
    dropWord?_append _ _
  rw [position?, word]
  simp only [Option.bind_eq_bind, Option.bind_some, dropBlanks?_coordinates h hx, numeral?_first hx h' y]
  rw [← Option.bind_assoc, numeral?_second hy h']
  rfl

/-! ## How they are classified -/

variable {s : Statement}

/-- A statement that begins with a letter with which no keyword of its own does. -/
theorem classify_of_first {c : Char} (first : s.text.head? = some c) (letter : isAsciiLetter c = true)
    (other : c ∉ ['m', 'v', 's', 'w']) : classify s true = viewClause s := by
  obtain ⟨rest, text⟩ := List.head?_eq_some_iff.1 first
  have ends : mayEnd c = true := by
    rw [mayEnd_iff]
    exact ⟨letter_not_blank letter, ne_of_class letter rfl, ne_of_class letter rfl⟩
  have starts : [c] <+: s.text := ⟨rest, text.symm⟩
  obtain ⟨behind, body⟩ := prefix_body starts rfl ends
  have ne : ∀ d ∈ ['m', 'v', 's', 'w'], d ≠ c := by
    rintro d hd rfl
    exact other hd
  have notClose : s.isClose = false := by
    have brace : '}' ≠ c := (ne_of_class letter rfl).symm
    simp [Statement.isClose, text, brace.symm]
  have noKeyword : keyword? "workspace".toList s.body = none := by
    have word : dropWord? "workspace".toList s.body = none :=
      dropWord?_other (c := c) (by rw [← body]; rfl) (fun e => ne 'w' (by decide) (Option.some.inj e)) (by decide)
    rw [keyword?, word]
    rfl
  have notBody : ∀ word : List Char, word.head? ∈ ['m', 'v', 's'].map some → (s.body == word) = false := by
    intro word head
    rw [beq_eq_false_iff_ne]
    intro same
    rw [← same, ← body] at head
    simp only [List.mem_map, List.singleton_append, List.head?_cons, Option.some.injEq] at head
    obtain ⟨d, hd, rfl⟩ := head
    exact ne d (List.mem_append_left ['w'] hd) rfl
  rw [classify, notClose, noKeyword, notBody _ (by decide), notBody _ (by decide), notBody _ (by decide)]
  simp

theorem classify_elementPosition (text : s.text = elementText gap name gap' (coordinates x gap'' y)) (h : IsGap gap)
    (named : IsName name) (h' : IsGap gap') (hx : x.IsWritten) (h'' : IsGap gap'') (hy : y.IsWritten) :
    classify s true = .elementPosition name x y := by
  rw [classify_of_first (by rw [text]; rfl) (by decide) (by decide), viewClause, text,
    elementPosition?_text h named h' hx h'' hy]
  rfl

theorem classify_viewElement (text : s.text = elementText gap name gap' ['{']) (h : IsGap gap) (named : IsName name)
    (h' : IsGap gap') : classify s true = .viewElement name := by
  rw [classify_of_first (by rw [text]; rfl) (by decide) (by decide), viewClause, text,
    elementPosition?_opening h named h', viewElement?_text h named h']
  rfl

theorem classify_position (text : s.text = positionText gap x gap' y) (h : IsGap gap) (hx : x.IsWritten)
    (h' : IsGap gap') (hy : y.IsWritten) : classify s true = .position x y := by
  have element : ∀ word : List Char, word = "element".toList → dropWord? word (positionText gap x gap' y) = none := by
    rintro _ rfl
    exact dropWord?_other (c := 'p') rfl (by decide) (by decide)
  have noPosition : elementPosition? (positionText gap x gap' y) = none := by
    rw [elementPosition?, element _ rfl]
    rfl
  have noElement : viewElement? (positionText gap x gap' y) = none := by
    rw [viewElement?, element _ rfl]
    rfl
  rw [classify_of_first (by rw [text]; rfl) (by decide) (by decide), viewClause, text, noPosition, noElement,
    position?_text h hx h' hy]
  rfl

/-! ## Lines and statements -/

theorem getLast?_coordinates (x : Numeral) (gap : List Char) (hy : y.IsWritten) (before : List Char) :
    ∃ c, (before ++ coordinates x gap y).getLast? = some c ∧ mayEnd c = true := by
  obtain ⟨c, hc⟩ := Option.isSome_iff_exists.1 (List.getLast?_isSome.2 hy.ne_nil)
  obtain ⟨notBlank, _, notOpening, _, notMark, _⟩ := pieceChar_facts (hy.piece c (List.mem_of_getLast? hc))
  refine ⟨c, ?_, mayEnd_iff.2 ⟨notBlank, notMark, notOpening⟩⟩
  rw [coordinates, ← List.append_assoc, ← List.append_assoc, List.getLast?_append, hc]
  rfl

theorem IsGap.bare (h : IsGap gap) : IsBare gap := isBare_of_blank h.blank

theorem bare_coordinates (hx : x.IsWritten) (h : IsGap gap) (hy : y.IsWritten) : IsBare (coordinates x gap y) :=
  hx.piece.bare.append (h.bare.append hy.piece.bare)

theorem unbroken_coordinates (hx : x.IsWritten) (h : IsGap gap) (hy : y.IsWritten) :
    IsUnbroken (coordinates x gap y) :=
  isUnbroken_append.2 ⟨hx.piece.unbroken, isUnbroken_append.2 ⟨h.unbroken, hy.piece.unbroken⟩⟩

theorem bare_elementText (h : IsGap gap) (named : IsName name) (h' : IsGap gap') {rest : List Char} (hr : IsBare rest) :
    IsBare (elementText gap name gap' rest) := by
  have word : IsBare "element".toList := by decide
  exact word.append (h.bare.append (named.piece.bare.append (h'.bare.append hr)))

theorem unbroken_elementText (h : IsGap gap) (named : IsName name) (h' : IsGap gap') {rest : List Char}
    (hr : IsUnbroken rest) : IsUnbroken (elementText gap name gap' rest) := by
  have word : IsUnbroken "element".toList := by decide
  unfold elementText
  simp only [isUnbroken_append]
  exact ⟨word, h.unbroken, named.piece.unbroken, h'.unbroken, hr⟩

theorem solid_elementText (h : IsGap gap) (named : IsName name) (h' : IsGap gap') (hx : x.IsWritten)
    (h'' : IsGap gap'') (hy : y.IsWritten) : Solid (elementText gap name gap' (coordinates x gap'' y)) where
  first := ⟨'e', rfl, by decide⟩
  last := by
    have last := getLast?_coordinates x gap'' hy ("element".toList ++ (gap ++ (name ++ gap')))
    unfold elementText
    simpa only [List.append_assoc] using last
  unbroken := unbroken_elementText h named h' (unbroken_coordinates hx h'' hy)
  flat := (bare_elementText h named h' (bare_coordinates hx h'' hy)).flat

theorem solid_positionText (h : IsGap gap) (hx : x.IsWritten) (h' : IsGap gap') (hy : y.IsWritten) :
    Solid (positionText gap x gap' y) where
  first := ⟨'p', rfl, by decide⟩
  last := by
    have last := getLast?_coordinates x gap' hy ("position".toList ++ gap)
    unfold positionText
    simpa only [List.append_assoc] using last
  unbroken := isUnbroken_append.2 ⟨by decide, isUnbroken_append.2 ⟨h.unbroken, unbroken_coordinates hx h' hy⟩⟩
  flat := by
    have word : IsBare "position".toList := by decide
    exact (word.append (h.bare.append (bare_coordinates hx h' hy))).flat

variable {line text : List Char}

theorem isIndent_nil : IsIndent [] := List.forall_mem_nil _

theorem isWhole_of_trimmed (unbroken : IsUnbroken line) (trimmed : IsTrimmed line)
    (noComment : "/*".toList.isPrefixOf line = false) (noJoin : line.getLast? ≠ some '\\') : IsWhole line :=
  Outline.isWhole_indented isIndent_nil 0 unbroken trimmed noComment noJoin

theorem Solid.whole (h : Solid line) : IsWhole line := Outline.isWhole_solid isIndent_nil 0 h

/-- A line that stands for itself and is trimmed is a document of its own. -/
theorem tokenize_line (whole : IsWhole line) (trimmed : IsTrimmed line) :
    tokenize (String.ofList line) = statementsOf 1 line := by
  obtain ⟨c, hc, _⟩ := trimmed.head
  have last : [line].getLast? ≠ some [] := by
    rintro ⟨⟩
    cases hc
  have all : ∀ l ∈ [line], IsWhole l := List.forall_mem_singleton.2 whole
  have statements := tokenize_lines all last
  rw [List.intercalate_singleton] at statements
  rw [statements, statementsAt, statementsAt, trimmed.trim_eq, List.append_nil]

/-! ## What they do -/

theorem notClose_of_classify {inViews : Bool} (h : classify s inViews ≠ .close) : s.isClose = false := by
  rw [Bool.eq_false_iff]
  intro close
  rw [classify, if_pos close] at h
  exact h rfl

namespace Builder

variable {ids : IdSource} {b : Builder}

/-- Among the views, where statements are read, a statement does what its clause says. -/
theorem feed_among_views (views : b.inViews = true) (reading : b.isSkipping = false) {clause : Clause}
    (said : classify s true = clause) (other : clause ≠ .close) : b.feed ids s = b.handle ids s clause := by
  have notClose : s.isClose = false := notClose_of_classify (said ▸ other)
  rw [feed_handled ids notClose reading, views, said]

theorem inViews_push (frame : Frame) (views : b.inViews = true) : (b.push frame).inViews = true := by
  simp only [inViews, push, List.contains_cons, Bool.or_eq_true] at views ⊢
  exact .inr views

theorem isSkipping_pushViewElement (identifier : String) (reading : b.isSkipping = false) :
    (b.push (.viewElement identifier)).isSkipping = false := by
  simp [isSkipping, inStyles, push] at reading ⊢
  exact reading.1

/-- The line, in a comment or not. -/
theorem feed_elementPosition (views : b.inViews = true) (reading : b.isSkipping = false)
    (text : s.text = elementText gap name gap' (coordinates x gap'' y)) (h : IsGap gap) (named : IsName name)
    (h' : IsGap gap') (hx : x.IsWritten) (h'' : IsGap gap'') (hy : y.IsWritten) :
    b.feed ids s = b.recordPosition (String.ofList name) x y :=
  feed_among_views views reading (classify_elementPosition text h named h' hx h'' hy) nofun

/-- The header of the block, the line in it, and its end. -/
theorem feed_positionBlock (views : b.inViews = true) (reading : b.isSkipping = false) {l l' : List Char}
    (h : IsGap gap) (named : IsName name) (h' : IsGap gap') (hl : IsGap l) (hx : x.IsWritten) (hl' : IsGap l')
    (hy : y.IsWritten) (n m k : Nat) :
    b.feedAll ids [{ text := elementText gap name gap' ['{'], line := n }, { text := positionText l x l' y, line := m },
        { text := ['}'], line := k }] = b.recordPosition (String.ofList name) x y := by
  have header : b.feed ids { text := elementText gap name gap' ['{'], line := n } =
      b.push (.viewElement (String.ofList name)) :=
    feed_among_views views reading (classify_viewElement rfl h named h') nofun
  have inner : (b.push (.viewElement (String.ofList name))).feed ids { text := positionText l x l' y, line := m } =
      (b.push (.viewElement (String.ofList name))).onPosition x y :=
    feed_among_views (inViews_push _ views) (isSkipping_pushViewElement _ reading)
      (classify_position rfl hl hx hl' hy) nofun
  rw [feedAll, List.foldl_cons, List.foldl_cons, List.foldl_cons, header, inner]
  exact feed_close ids _ rfl

end Builder

/-! ## The three ways -/

/-- The block that records a position, as lines. -/
def positionBlock (gap name gap' l : List Char) (x : Numeral) (l' : List Char) (y : Numeral) : List (List Char) :=
  [elementText gap name gap' ['{'], positionText l x l' y, ['}']]

theorem elementText_eq (gap name gap' rest : List Char) :
    elementText gap name gap' rest = "element".toList ++ (gap ++ (name ++ (gap' ++ rest))) := rfl

theorem elementText_brace (gap name gap' : List Char) :
    elementText gap name gap' ['{'] = elementText gap name gap' [] ++ ['{'] := by
  rw [elementText_eq, elementText_eq]
  simp only [List.append_assoc, List.append_nil]

theorem tokenize_positionBlock {l l' : List Char} (h : IsGap gap) (named : IsName name) (h' : IsGap gap') (hl : IsGap l)
    (hx : x.IsWritten) (hl' : IsGap l') (hy : y.IsWritten) :
    tokenize (String.ofList (['\n'].intercalate (positionBlock gap name gap' l x l' y))) =
      [{ text := elementText gap name gap' ['{'], line := 1 }, { text := positionText l x l' y, line := 2 },
        { text := ['}'], line := 3 }] := by
  have last : (elementText gap name gap' ['{']).getLast? = some '{' := by
    rw [elementText_brace]
    exact List.getLast?_concat
  have header : IsTrimmed (elementText gap name gap' ['{']) := ⟨⟨'e', rfl, by decide⟩, '{', last, by decide⟩
  have inner := solid_positionText hl hx hl' hy
  have close : IsTrimmed ['}'] := ⟨⟨_, rfl, by decide⟩, _, rfl, by decide⟩
  have whole : ∀ line ∈ positionBlock gap name gap' l x l' y, IsWhole line := by
    refine List.forall_mem_cons.2 ⟨?_, List.forall_mem_cons.2 ⟨inner.whole, List.forall_mem_singleton.2 ?_⟩⟩
    · refine isWhole_of_trimmed (unbroken_elementText h named h' (by decide)) header rfl ?_
      rw [last]
      decide
    · exact isWhole_of_trimmed (by decide) close (by decide) (by decide)
  have opened : statementsOf 1 (elementText gap name gap' ['{']) =
      [{ text := elementText gap name gap' ['{'], line := 1 }] := by
    rw [elementText_brace]
    exact statementsOf_header ⟨'e', rfl, by decide⟩ (bare_elementText h named h' (List.forall_mem_nil _)).flat 1
  rw [tokenize_lines whole nofun]
  simp only [positionBlock, statementsAt, header.trim_eq, opened, inner.trimmed.trim_eq, inner.statements,
    close.trim_eq, statementsOf_closing]
  rfl

theorem tokenize_marked {marker space text : List Char} (mark : marker = "#".toList ∨ marker = "//".toList)
    (blank : ∀ c ∈ space, isBlank c = true) (unbroken : IsUnbroken space) (solid : Solid text) :
    tokenize (String.ofList (marker ++ (space ++ text))) =
      if "element ".toList.isPrefixOf text then [{ text, line := 1, fromComment := true }] else [] := by
  obtain ⟨c, hc, ends⟩ := solid.last
  have notBlank := (mayEnd_iff.1 ends).1
  have last : (marker ++ (space ++ text)).getLast? = some c := by
    rw [← List.append_assoc, List.getLast?_append, hc]
    rfl
  have trimmed : IsTrimmed (marker ++ (space ++ text)) := by
    refine ⟨?_, c, last, notBlank⟩
    rcases mark with rfl | rfl
    · exact ⟨'#', rfl, by decide⟩
    · exact ⟨'/', rfl, by decide⟩
  have whole : IsWhole (marker ++ (space ++ text)) := by
    refine isWhole_of_trimmed ?_ trimmed ?_ ?_
    · refine isUnbroken_append.2 ⟨?_, isUnbroken_append.2 ⟨unbroken, solid.unbroken⟩⟩
      rcases mark with rfl | rfl <;> decide
    · rcases mark with rfl | rfl <;> rfl
    · rw [last]
      exact fun e => (mayEnd_iff.1 ends).2.1 (Option.some.inj e)
  rw [tokenize_line whole trimmed, statementsOf_marked mark blank solid]

theorem startsElement (h : IsGap gap) (name gap' rest : List Char) :
    "element ".toList.isPrefixOf (elementText gap name gap' rest) = true ↔ gap.head? = some ' ' := by
  have spaced : "element ".toList = "element".toList ++ [' '] := rfl
  obtain ⟨c, cs, rfl⟩ := List.exists_cons_of_ne_nil h.ne_nil
  rw [List.isPrefixOf_iff_prefix, spaced, elementText_eq, List.prefix_append_right_inj, List.cons_append,
    List.cons_prefix_cons]
  simp [eq_comm]

/-- Among the views, where statements are read, the line and the block record the position and change nothing else,
whatever the gaps are. So does the line in a comment just if a space is what follows `element`; else the comment is
none that is read, and nothing happens. -/
theorem feedAll_threeWays (ids : IdSource) {b : Builder} (views : b.inViews = true) (reading : b.isSkipping = false)
    (named : IsName name) (hx : x.IsWritten) (hy : y.IsWritten)
    (h : IsGap gap) (h' : IsGap gap') (h'' : IsGap gap'')
    {marker space : List Char} (mark : marker = "#".toList ∨ marker = "//".toList)
    (blank : ∀ c ∈ space, isBlank c = true) (unbroken : IsUnbroken space)
    {g g' l l' : List Char} (hg : IsGap g) (hg' : IsGap g') (hl : IsGap l) (hl' : IsGap l') :
    let line := elementText gap name gap' (coordinates x gap'' y)
    let block := positionBlock g name g' l x l' y
    b.feedAll ids (tokenize (String.ofList line)) = b.recordPosition (String.ofList name) x y ∧
      b.feedAll ids (tokenize (String.ofList (['\n'].intercalate block))) = b.recordPosition (String.ofList name) x y ∧
        b.feedAll ids (tokenize (String.ofList (marker ++ (space ++ line)))) =
          if gap.head? = some ' ' then b.recordPosition (String.ofList name) x y else b := by
  intro line block
  have solid := solid_elementText h named h' hx h'' hy
  refine ⟨?_, ?_, ?_⟩
  · rw [tokenize_line solid.whole solid.trimmed, solid.statements]
    exact Builder.feed_elementPosition (s := { text := line, line := 1 }) views reading rfl h named h' hx h'' hy
  · rw [tokenize_positionBlock hg named hg' hl hx hl' hy]
    exact Builder.feed_positionBlock views reading hg named hg' hl hx hl' hy 1 2 3
  · rw [tokenize_marked mark blank unbroken solid]
    by_cases spaced : gap.head? = some ' '
    · rw [if_pos ((startsElement h _ _ _).2 spaced), if_pos spaced]
      exact Builder.feed_elementPosition (s := { text := line, line := 1, fromComment := true }) views reading rfl
        h named h' hx h'' hy
    · rw [if_neg fun starts => spaced ((startsElement h _ _ _).1 starts), if_neg spaced]
      rfl

/-- The block of a view is open. -/
def inView : Builder := { stack := [.view, .views, .workspace], drawn := 0 }

theorem feedAll_threeWays_spaced :
    inView.inViews = true ∧ inView.isSkipping = false ∧
      ∀ text ∈ ["element  a -0.5\t700", "// element  a -0.5\t700", "element a\t\x7b\nposition -0.5 700\n\x7d"],
        inView.feedAll IdSource.strokes (tokenize text) =
          inView.recordPosition "a" ⟨true, ['0'], some ['5']⟩ ⟨false, ['7', '0', '0'], none⟩ := by
  have named : IsName ['a'] := by decide
  have half : Numeral.IsWritten ⟨true, ['0'], some ['5']⟩ := ⟨by decide, fun _ e => Option.some.inj e ▸ by decide⟩
  have whole : Numeral.IsWritten ⟨false, ['7', '0', '0'], none⟩ := ⟨by decide, nofun⟩
  have two : IsGap [' ', ' '] := by decide
  have tab : IsGap ['\t'] := by decide
  have views : inView.inViews = true := by decide
  have reading : inView.isSkipping = false := by decide
  obtain ⟨line, block, comment⟩ := feedAll_threeWays IdSource.strokes views reading named half whole two isGap_blank tab
    (.inr rfl) isGap_blank.blank isGap_blank.unbroken isGap_blank tab isGap_blank isGap_blank
  refine ⟨views, reading, ?_⟩
  simp only [List.forall_mem_cons]
  exact ⟨line, comment, block, List.forall_mem_nil _⟩

/-- Behind a tab the line records the position, and the comment does not. -/
theorem not_feedAll_threeWays_tab :
    inView.feedAll IdSource.strokes (tokenize "element\ta 700 500") =
        inView.recordPosition "a" ⟨false, ['7', '0', '0'], none⟩ ⟨false, ['5', '0', '0'], none⟩ ∧
      inView.feedAll IdSource.strokes (tokenize "# element\ta 700 500") = inView ∧
        inView.recordPosition "a" ⟨false, ['7', '0', '0'], none⟩ ⟨false, ['5', '0', '0'], none⟩ ≠ inView := by
  decide +kernel

end Blueprint.Dsl
