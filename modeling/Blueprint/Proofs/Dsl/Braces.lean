/-
  Blueprint.Proofs.Dsl.Braces — the braces of a document.

  A document is read if it has as many opening as closing braces, quoted or not. Each block opens and
  closes one. Identifiers, keys, coordinates and whatever is written for every workspace have none, and
  none comes or goes where a text is quoted. So what a document has too many of either is what stands in
  the texts of the workspace.

  Proved: the surplus of an outline's text is that of its lines and headers (`surplus_text`), the surplus
  of a workspace's outline is that of its texts (`surplus_workspace`), and so the braces of a document
  balance if and only if those in the texts do (`balanced_document_iff`).
-/

import Blueprint.Proofs.Dsl.ModelSection

namespace Blueprint.Dsl

open Text

/-! ## Braces of a text -/

/-- One for an opening brace, and one less than nothing for a closing one. -/
def weight (c : Char) : Int := if c = '{' then 1 else if c = '}' then -1 else 0

@[simp] theorem weight_blank : weight ' ' = 0 := by decide

/-- By how many the opening braces outnumber the closing ones. -/
def surplus : List Char → Int
  | [] => 0
  | c :: cs => weight c + surplus cs

@[simp] theorem surplus_nil : surplus [] = 0 := rfl

@[simp] theorem surplus_cons (c : Char) (cs : List Char) : surplus (c :: cs) = weight c + surplus cs := rfl

@[simp] theorem surplus_append (cs ds : List Char) : surplus (cs ++ ds) = surplus cs + surplus ds := by
  induction cs with
  | nil => simp
  | cons c cs ih => simp [ih, Int.add_assoc]

theorem surplus_eq (cs : List Char) : surplus cs = (cs.count '{' : Int) - cs.count '}' := by
  induction cs with
  | nil => rfl
  | cons c cs ih =>
    rw [surplus_cons, ih, weight]
    by_cases opening : c = '{'
    · subst opening
      simp
      omega
    · by_cases closing : c = '}'
      · subst closing
        simp
        omega
      · simp [opening, closing]

theorem surplus_eq_zero {cs : List Char} (h : ∀ c ∈ cs, c ≠ '{' ∧ c ≠ '}') : surplus cs = 0 := by
  induction cs with
  | nil => rfl
  | cons c cs ih =>
    obtain ⟨⟨notOpening, notClosing⟩, later⟩ := List.forall_mem_cons.1 h
    rw [surplus_cons, ih later, weight, if_neg notOpening, if_neg notClosing]
    rfl

theorem surplus_escape (cs : List Char) : surplus (escape cs) = surplus cs := by
  fun_induction escape cs with
  | case1 => rfl
  | case2 cs ih => simp [ih, weight]
  | case3 cs ih => simp [ih, weight]
  | case4 c cs _ _ ih => rw [surplus_cons, surplus_cons, ih]

@[simp] theorem surplus_quote (cs : List Char) : surplus (quote cs) = surplus cs := by
  simp [quote, surplus_escape, weight]

/-- The braces of several texts. -/
def surplusOf (texts : List String) : Int := surplus (texts.flatMap String.toList)

@[simp] theorem surplusOf_nil : surplusOf [] = 0 := rfl

@[simp] theorem surplusOf_cons (t : String) (ts : List String) :
    surplusOf (t :: ts) = surplus t.toList + surplusOf ts := by
  simp [surplusOf]

@[simp] theorem surplusOf_append (ts us : List String) : surplusOf (ts ++ us) = surplusOf ts + surplusOf us := by
  simp [surplusOf]

@[simp] theorem surplus_arguments (values : List String) : surplus (arguments values) = surplusOf values := by
  induction values with
  | nil => rfl
  | cons v vs ih => simp [arguments_cons, ih, weight]

/-- Empty texts have no braces. -/
theorem surplusOf_dropEmptyEnd (values : List String) : surplusOf (dropEmptyEnd values) = surplusOf values := by
  have empty : ∀ k, surplusOf (List.replicate k "") = 0 := fun k => by
    induction k with
    | zero => rfl
    | succ k ih => rw [List.replicate_succ, surplusOf_cons, ih]; rfl
  obtain ⟨k, hk⟩ := exists_eq_dropEmptyEnd_append values
  conv => rhs; rw [hk, surplusOf_append, empty, Int.add_zero]

/-! ## Braces of an outline -/

mutual

/-- The surplus of the lines and the headers; the braces of blocks balance. -/
def Outline.surplus : Outline → Int
  | .gap => 0
  | .line text => Dsl.surplus text
  | .block header contents => Dsl.surplus header + Outline.surplusAll contents

def Outline.surplusAll : List Outline → Int
  | [] => 0
  | o :: os => o.surplus + Outline.surplusAll os

end

namespace Outline

@[simp] theorem surplusAll_nil : surplusAll [] = 0 := rfl

@[simp] theorem surplusAll_cons (o : Outline) (os : List Outline) :
    surplusAll (o :: os) = o.surplus + surplusAll os := rfl

@[simp] theorem surplusAll_append (os ps : List Outline) : surplusAll (os ++ ps) = surplusAll os + surplusAll ps := by
  induction os with
  | nil => simp
  | cons o os ih => simp [ih, Int.add_assoc]

variable {step : List Char}

theorem surplus_indented (hstep : Dsl.surplus step = 0) (depth : Nat) (text : List Char) :
    Dsl.surplus (indented step depth text) = Dsl.surplus text := by
  rw [indented]
  induction depth with
  | zero => simp
  | succ depth ih =>
    rw [List.replicate_succ, List.flatten_cons, List.append_assoc, surplus_append, hstep, ih, Int.zero_add]

mutual

theorem surplus_lines (hstep : Dsl.surplus step = 0) (depth : Nat) (o : Outline) :
    Dsl.surplus (o.lines step depth).flatten = o.surplus := by
  cases o with
  | gap => rfl
  | line text => simp [lines, surplus_indented hstep, surplus]
  | block header contents =>
    simp [lines, surplus_indented hstep, surplus, surplus_linesOf hstep (depth + 1) contents, weight]
    omega

theorem surplus_linesOf (hstep : Dsl.surplus step = 0) (depth : Nat) (os : List Outline) :
    Dsl.surplus (linesOf step depth os).flatten = surplusAll os := by
  cases os with
  | nil => rfl
  | cons o os => simp [linesOf, surplus_lines hstep depth o, surplus_linesOf hstep depth os]

end

theorem surplus_intercalate {separator : List Char} (h : Dsl.surplus separator = 0) (ls : List (List Char)) :
    Dsl.surplus (separator.intercalate ls) = Dsl.surplus ls.flatten := by
  induction ls with
  | nil => rfl
  | cons l ls ih =>
    cases ls with
    | nil => simp
    | cons next ls => simp [List.intercalate_cons_cons, ih, h]

theorem surplus_text (hstep : Dsl.surplus step = 0) (o : Outline) : Dsl.surplus (o.text step) = o.surplus := by
  rw [text, surplus_intercalate rfl, surplus_lines hstep]

end Outline

/-! ## What is written without braces -/

theorem surplus_word {w : List Char} (h : IsWord w) : surplus w = 0 := surplus_eq_zero fun c hc =>
  have char := h.forall_mem c hc
  ⟨ne_of_class char rfl, ne_of_class char rfl⟩

theorem mem_dropFinalLineFeed {c : Char} {cs : List Char} (h : c ∈ cs) : c = '\n' ∨ c ∈ dropFinalLineFeed cs := by
  fun_induction dropFinalLineFeed cs with
  | case1 => cases h
  | case2 => exact .inl (List.mem_singleton.1 h)
  | case3 d cs _ ih =>
    rcases List.mem_cons.1 h with rfl | h
    · exact .inr List.mem_cons_self
    · exact (ih h).imp_right (List.mem_cons_of_mem _)

theorem surplus_of_isIdentifier {s : String} (h : isIdentifier s = true) : surplus s.toList = 0 := by
  simp only [isIdentifier, Bool.and_eq_true] at h
  cases hs : s.toList with
  | nil => rfl
  | cons c cs =>
    simp only [hs, Bool.and_eq_true, List.all_eq_true] at h
    obtain ⟨_, letter, all⟩ := h
    have first := isIdentifierChar_of_letter letter
    refine surplus_eq_zero (List.forall_mem_cons.2 ⟨⟨ne_of_class first rfl, ne_of_class first rfl⟩, ?_⟩)
    intro d hd
    rcases mem_dropFinalLineFeed hd with rfl | hd
    · decide
    · exact ⟨ne_of_class (all d hd) rfl, ne_of_class (all d hd) rfl⟩

/-- No identifier has a brace, whatever the ids are. -/
theorem surplus_get? (es : List Element) {id i : String} (h : (Allocation.ofElements es).get? id = some i) :
    surplus i.toList = 0 := by
  rcases (Allocation.sound_ofElements es).words id i h with word | ⟨rfl, kept⟩
  · exact surplus_word word
  · exact surplus_of_isIdentifier kept

@[simp] theorem surplus_identifierOf (es : List Element) (id : String) :
    surplus (identifierOf (Allocation.ofElements es) id) = 0 := by
  rw [identifierOf]
  cases h : (Allocation.ofElements es).get? id with
  | none => rfl
  | some i => exact surplus_get? es h

@[simp] theorem surplus_coordinateText (x : Binary64) : surplus (coordinateText x) = 0 := surplus_eq_zero fun _ hc =>
  have facts := numberChar_facts (isNumberChar_of_mem_coordinateText hc)
  ⟨facts.2.2.1, facts.2.2.2.1⟩

@[simp] theorem surplus_sanitizeKeyText (key : String) : surplus (sanitizeKeyText key).toList = 0 := by
  rw [sanitizeKeyText, String.toList_ofList]
  refine surplus_eq_zero fun c hc => ?_
  have char := isKeyChar_of_mem_sanitizeKey hc
  constructor <;> (rintro rfl; cases char)

@[simp] theorem surplus_keyword (kind : ElementKind) : surplus kind.keyword.toList = 0 := by cases kind <;> decide

@[simp] theorem surplus_viewKeyword (kind : ViewKind) : surplus kind.keyword.toList = 0 := by cases kind <;> decide

/-! ## What is written of a workspace -/

open Builder (elementHeader groupHeader treeOutline_group treeOutline_element)

variable {ws : Workspace}

theorem surplus_declaration (e : Element) :
    surplus (declaration e) = surplus e.name.toList + surplusOf (declaredValues e) := by
  rw [declaration_eq, surplus_append, surplus_keyword, surplus_arguments, surplusOf_cons, surplusOf_dropEmptyEnd,
    Int.zero_add]

theorem surplus_elementHeader (es : List Element) {e : Element} (hk : e.kind ≠ .group) :
    surplus (elementHeader (Allocation.ofElements es) e) = surplusOf (declaredTexts e) := by
  have equals : surplus " = ".toList = 0 := by decide
  rw [elementHeader, declaredTexts, if_neg hk, surplus_append, surplus_append, surplus_identifierOf, equals,
    surplus_declaration, surplusOf_cons, Int.zero_add, Int.zero_add]

theorem surplus_groupHeader {e : Element} (hk : e.kind = .group) :
    surplus (groupHeader e) = surplusOf (declaredTexts e) := by
  have word : surplus "group ".toList = 0 := by decide
  have header : groupHeader e = "group ".toList ++ quote e.name.toList := rfl
  rw [header, declaredTexts, if_pos hk, surplus_append, word, surplus_quote, surplusOf_cons, surplusOf_nil]
  omega

mutual

theorem surplus_treeOutline (es : List Element) (t : Tree) (tight : t.IsTight) :
    (treeOutline (Allocation.ofElements es) t).surplus = surplusOf (t.preorder.flatMap declaredTexts) := by
  obtain ⟨e, encloses, nested⟩ := t
  have inner := surplus_treeOutlines es nested tight.2
  rw [Tree.preorder, List.flatMap_cons, surplusOf_append]
  by_cases hk : e.kind = .group
  · rw [treeOutline_group _ hk, Outline.surplus, surplus_groupHeader hk, inner]
  · rw [treeOutline_element _ hk]
    cases encloses with
    | true => rw [if_pos rfl, Outline.surplus, surplus_elementHeader es hk, inner]
    | false =>
      rw [if_neg (by decide), Outline.surplus, surplus_elementHeader es hk, tight.1 rfl]
      exact (Int.add_zero _).symm

theorem surplus_treeOutlines (es : List Element) (ts : List Tree) (tight : Tree.AreTight ts) :
    Outline.surplusAll (treeOutlines (Allocation.ofElements es) ts) =
      surplusOf ((Tree.preorderAll ts).flatMap declaredTexts) := by
  cases ts with
  | nil => rfl
  | cons t ts =>
    rw [treeOutlines, Outline.surplusAll_cons, surplus_treeOutline es t tight.1, surplus_treeOutlines es ts tight.2,
      Tree.preorderAll, List.flatMap_append, surplusOf_append]

end

theorem surplus_relationshipLine? {r : Relationship} {o : Outline}
    (h : relationshipLine? ws (Allocation.ofElements ws.elements) r = some o) :
    o.surplus = surplusOf (connectionValues r) := by
  unfold relationshipLine? at h
  split at h
  · cases h
  · split at h
    · next source target hs ht =>
      have arrow : surplus " -> ".toList = 0 := by decide
      obtain rfl := Option.some.inj h
      simp only [Outline.surplus, quotedTail_eq, surplus_append, surplus_cons, surplus_quote, surplus_arguments,
        surplus_get? ws.elements hs, surplus_get? ws.elements ht, arrow, weight_blank, connectionValues, surplusOf_cons,
        Int.zero_add]
      rfl
    · cases h

theorem surplus_relationships (rs : List Relationship) :
    Outline.surplusAll (rs.filterMap (relationshipLine? ws (Allocation.ofElements ws.elements))) =
      surplusOf ((rs.filter fun r => (relationshipLine? ws (Allocation.ofElements ws.elements) r).isSome).flatMap
        connectionValues) := by
  induction rs with
  | nil => rfl
  | cons r rs ih =>
    cases h : relationshipLine? ws (Allocation.ofElements ws.elements) r with
    | none => rw [List.filterMap_cons_none h, List.filter_cons_of_neg (by simp [h]), ih]
    | some o =>
      rw [List.filterMap_cons_some h, List.filter_cons_of_pos (by simp [h]), Outline.surplusAll_cons,
        surplus_relationshipLine? h, ih, List.flatMap_cons, surplusOf_append]

theorem surplus_model (ws : Workspace) :
    (modelOutline ws (Allocation.ofElements ws.elements)).surplus =
      surplusOf ((Tree.preorderAll ws.forest).flatMap declaredTexts) +
        surplusOf ((ws.relationships.filter fun r =>
          (relationshipLine? ws (Allocation.ofElements ws.elements) r).isSome).flatMap connectionValues) := by
  have word : surplus "model".toList = 0 := by decide
  have gap : Outline.surplusAll (if ws.elements.isEmpty then [] else [.gap]) = 0 := by split <;> rfl
  rw [modelOutline, Outline.surplus, word, Outline.surplusAll_append, Outline.surplusAll_append, gap,
    surplus_treeOutlines ws.elements ws.forest (tight_grow _ _ _).1, surplus_relationships]
  omega

theorem surplus_recordLine (es : List Element) (e : Element) :
    (recordLine (Allocation.ofElements es) e).surplus = 0 := by
  have start : surplus "# ".toList = 0 := by decide
  have word : surplus "element ".toList = 0 := by decide
  have text : surplus (note (recordText (identifierOf (Allocation.ofElements es) e.id) e.position)) = 0 := by
    rw [note, recordText_eq]
    simp only [surplus_append, surplus_cons, surplus_identifierOf, surplus_coordinateText, start, word, weight_blank,
      Int.add_zero]
  exact text

theorem surplus_recordLines (es shown : List Element) :
    Outline.surplusAll (shown.map (recordLine (Allocation.ofElements es))) = 0 := by
  induction shown with
  | nil => rfl
  | cons e shown ih => rw [List.map_cons, Outline.surplusAll_cons, surplus_recordLine, ih, Int.add_zero]

theorem surplus_writtenAnchor? {v : View} {anchor : List Char}
    (h : writtenAnchor? ws (Allocation.ofElements ws.elements) v = some anchor) : surplus anchor = 0 := by
  have named : (v.anchorId.bind (Allocation.ofElements ws.elements).get?).map String.toList = some anchor →
      surplus anchor = 0 := by
    intro h
    obtain ⟨i, found, rfl⟩ := Option.map_eq_some_iff.1 h
    obtain ⟨id, _, hi⟩ := Option.bind_eq_some_iff.1 found
    exact surplus_get? ws.elements hi
  unfold writtenAnchor? at h
  split at h
  · cases h
  · obtain rfl := Option.some.inj h
    unfold deploymentAnchor
    split
    · exact surplus_identifierOf _ _
    · rfl
  · exact named h

theorem surplus_viewBlock (v : View) :
    (viewBlock ws (Allocation.ofElements ws.elements) v).surplus = surplusOf (viewTexts v) := by
  have header : surplus (viewLine v.kind (writtenAnchor? ws (Allocation.ofElements ws.elements) v)
      (sanitizeKeyText v.key) v.description) = surplus v.description.toList := by
    cases anchor : writtenAnchor? ws (Allocation.ofElements ws.elements) v with
    | none => simp [viewLine]
    | some a => simp [viewLine, surplus_writtenAnchor? anchor, weight]
  have fixed : includeLine.surplus = 0 ∧ arrangementLine.surplus = 0 := by decide
  have title : Outline.surplusAll (titleLines v) = surplusOf (if hasTitle v then [v.name] else []) := by
    have word : surplus "title".toList = 0 := by decide
    rw [titleLines_eq]
    split
    · rw [Outline.surplusAll_cons, Outline.surplus, titleLine, surplus_append, word, surplus_cons, surplus_quote]
      simp [weight]
    · rfl
  rw [viewBlock, Outline.surplus, header, viewTexts, surplusOf_cons, Outline.surplusAll_append,
    Outline.surplusAll_append, Outline.surplusAll_cons, surplus_recordLines, title, fixed.1, Outline.surplusAll_cons,
    fixed.2, Outline.surplusAll_nil]
  omega

theorem surplus_viewParts (vs : List View) :
    Outline.surplusAll (vs.map (viewParts ws (Allocation.ofElements ws.elements))).flatten =
      surplusOf ((vs.filter (isWritten ws (Allocation.ofElements ws.elements))).flatMap viewTexts) := by
  induction vs with
  | nil => rfl
  | cons v vs ih =>
    rw [List.map_cons, List.flatten_cons, Outline.surplusAll_append, ih, viewParts]
    by_cases written : isWritten ws (Allocation.ofElements ws.elements) v = true
    · rw [if_pos written, List.filter_cons_of_pos written, List.flatMap_cons, surplusOf_append, Outline.surplusAll_cons,
        surplus_viewBlock]
      simp [Outline.surplus]
    · rw [if_neg written, List.filter_cons_of_neg written, Outline.surplusAll_nil, Int.zero_add]

theorem surplus_context (ws : Workspace) :
    Outline.surplusAll (contextOutlines ws (Allocation.ofElements ws.elements)) = 0 := by
  have start : surplus "systemContext ".toList = 0 := by decide
  have values : surplus " \"Context\" \"Context View\"".toList = 0 := by decide
  have fixed : includeLine.surplus = 0 ∧ arrangementLine.surplus = 0 := by decide
  unfold contextOutlines
  split
  · simp only [Outline.surplusAll_cons, Outline.surplus, surplus_append, surplus_identifierOf, start, values, fixed]
    rfl
  · rfl

/-- The braces of a document that do not balance are those of the texts. -/
theorem surplus_workspace (ws : Workspace) :
    (Outline.block (workspaceHeader ws) (workspaceParts ws)).surplus = surplusOf ws.writtenTexts := by
  have heading : surplus (workspaceHeader ws) = surplusOf [ws.name, ws.description] := by
    have word : surplus "workspace".toList = 0 := by decide
    rw [workspaceHeader_eq, surplus_append, word, surplus_arguments, Int.zero_add]
  have views : surplus "views".toList = 0 := by decide
  have styles : stylesOutline.surplus = 0 := by decide
  have context : Outline.surplusAll
      (if ws.views.isEmpty then contextOutlines ws (Allocation.ofElements ws.elements) else []) = 0 := by
    split
    · exact surplus_context ws
    · rfl
  have parts : Outline.surplusAll (sectionParts ws (Allocation.ofElements ws.elements)) =
      surplusOf ((writtenViews ws (Allocation.ofElements ws.elements)).flatMap viewTexts) := by
    rw [sectionParts, Outline.surplusAll_append, Outline.surplusAll_append, context, surplus_viewParts,
      Outline.surplusAll_cons, styles, writtenViews]
    simp
  rw [Outline.surplus, heading, workspaceParts, Outline.surplusAll_cons, Outline.surplusAll_cons, surplus_model,
    Outline.surplusAll_cons, Outline.surplusAll_cons, Workspace.writtenTexts, surplusOf_append, surplusOf_append,
    surplusOf_append]
  simp only [Outline.surplus, Outline.surplusAll_nil, views, parts]
  omega

/-- The texts have as many opening as closing braces. -/
def HasBalancedTexts (ws : Workspace) : Prop :=
  (ws.writtenTexts.flatMap String.toList).count '{' = (ws.writtenTexts.flatMap String.toList).count '}'

instance (ws : Workspace) : Decidable (HasBalancedTexts ws) := inferInstanceAs (Decidable (_ = _))

/-- The braces of a document balance if and only if those in the texts of its workspace do. -/
theorem balanced_document_iff (finite : HasFinitePositions ws.elements) :
    ∃ text, document ws = .ok text ∧ ((braceCounts text).1 = (braceCounts text).2 ↔ HasBalancedTexts ws) := by
  have indent : surplus usualStep = 0 := by decide
  refine ⟨_, write_eq finite usualStep, ?_⟩
  have whole := (Outline.surplus_text indent (.block (workspaceHeader ws) (workspaceParts ws))).trans
    (surplus_workspace ws)
  rw [surplusOf, surplus_eq, surplus_eq] at whole
  simp only [braceCounts, String.toList_ofList, HasBalancedTexts]
  omega

end Blueprint.Dsl
