/-
  Blueprint.Proofs.Dsl.Trees — what a builder makes of the trees of a written model.

  The elements get the ids that are drawn next, one after the other from top to bottom. An element's
  parent is the element whose block is innermost when it is declared, and this is the one in which the
  tree is nested. References have no dots, so qualified names do not get in their way, and an identifier
  stands for its element from the declaration on.

  Proved: one declaration of an element or a group (`declares_element`, `declares_group`), and by
  induction along the forest all of them (`declares_trees`).
-/

import Blueprint.Proofs.Dsl.Views
import Blueprint.Proofs.Layout.Positions
import Blueprint.Proofs.Model.Forest
import Mathlib.Data.List.Forall2

namespace Blueprint.Dsl

open Text

/-- The identifier that a group is given for the want of one. -/
def groupIdentifier (id : String) : String := "group_" ++ Builder.firstChars 4 id

/-- The element as it is taken in from its declaration, with `rename` telling its new id and its parent's. Its
identifier may be qualified. -/
structure PendingElement.Reads (names : Allocation) (rename : String → String) (e : Element) (p : PendingElement) :
    Prop where
  id : p.id = rename e.id
  kind : p.kind = e.kind
  name : p.name = e.name
  parentId : p.parentId = e.parentId.map rename
  description : e.kind ≠ .group → p.description = e.description
  technology : e.kind ≠ .group → p.technology = readTechnology e
  tags : e.kind ≠ .group → p.tags = (readTags e).filter (· != externalTag)
  isExternal : e.kind ≠ .group → p.isExternal = (readTags e).contains externalTag
  identifier : e.kind ≠ .group → ∀ i, names.get? e.id = some i → lastPart p.identifier = i
  placeholder : e.kind = .group → p.identifier = groupIdentifier p.id

/-- The new ids are those that are drawn from a count on, in order. -/
def Draws (ids : IdSource) (rename : String → String) : Nat → List Element → Prop
  | _, [] => True
  | n, e :: es => rename e.id = ids n ∧ Draws ids rename (n + 1) es

theorem draws_append {ids : IdSource} {rename : String → String} {n : Nat} {es fs : List Element} :
    Draws ids rename n (es ++ fs) ↔ Draws ids rename n es ∧ Draws ids rename (n + es.length) fs := by
  induction es generalizing n with
  | nil => simp [Draws]
  | cons e es ih =>
    have count : n + 1 + es.length = n + (e :: es).length := by rw [List.length_cons]; omega
    rw [List.cons_append, Draws, Draws, ih, and_assoc, count]

theorem draws_congr {ids : IdSource} {rename other : String → String} {n : Nat} {es : List Element}
    (same : ∀ e ∈ es, other e.id = rename e.id) (h : Draws ids rename n es) : Draws ids other n es := by
  induction es generalizing n with
  | nil => trivial
  | cons e es ih =>
    exact ⟨(same e List.mem_cons_self).trans h.1, ih (fun f hf => same f (List.mem_cons_of_mem _ hf)) h.2⟩

theorem exists_draws (ids : IdSource) (n : Nat) {es : List Element} (distinct : (es.map (·.id)).Nodup) :
    ∃ rename, Draws ids rename n es := by
  induction es generalizing n with
  | nil => exact ⟨id, trivial⟩
  | cons e es ih =>
    rw [List.map_cons, List.nodup_cons] at distinct
    obtain ⟨rename, h⟩ := ih (n + 1) distinct.2
    refine ⟨fun x => if x = e.id then ids n else rename x, by simp, draws_congr (fun f hf => if_neg ?_) h⟩
    exact fun same => distinct.1 (same ▸ List.mem_map_of_mem hf)

/-- A reference without dots stands for the element of which it is the identifier, or for what it stood
for before. -/
def Entered (names : Allocation) (rename : String → String) (es : List Element)
    (before after : IdentifierTable) : Prop :=
  ∀ reference : String, '.' ∉ reference.toList →
    (∃ e ∈ es, e.kind ≠ .group ∧ names.get? e.id = some reference ∧ after.resolve reference = some (rename e.id)) ∨
      ((∀ e ∈ es, e.kind ≠ .group → names.get? e.id ≠ some reference) ∧
        after.resolve reference = before.resolve reference)

namespace Entered

variable {names : Allocation} {rename : String → String} {es fs : List Element} {t u v : IdentifierTable}

theorem nil (t : IdentifierTable) : Entered names rename [] t t :=
  fun _ _ => .inr ⟨fun _ he => (nomatch he), rfl⟩

theorem append (h : Entered names rename es t u) (h' : Entered names rename fs u v) :
    Entered names rename (es ++ fs) t v := by
  intro reference bare
  rcases h' reference bare with ⟨e, he, found⟩ | ⟨none, same⟩
  · exact .inl ⟨e, List.mem_append_right _ he, found⟩
  · rcases h reference bare with ⟨e, he, hk, hname, found⟩ | ⟨none', same'⟩
    · exact .inl ⟨e, List.mem_append_left _ he, hk, hname, same.trans found⟩
    · exact .inr ⟨fun e he => (List.mem_append.1 he).elim (none' e) (none e), same.trans same'⟩

/-- With distinct identifiers every element is found. -/
theorem resolve (h : Entered names rename es t u)
    (injective : ∀ id other i, names.get? id = some i → names.get? other = some i → id = other) {e : Element}
    (he : e ∈ es) (hk : e.kind ≠ .group) {i : String} (hi : names.get? e.id = some i) (word : IsWord i.toList) :
    u.resolve i = some (rename e.id) := by
  have bare : '.' ∉ i.toList := fun dot => absurd (word.forall_mem '.' dot) (by decide)
  rcases h i bare with ⟨f, _, _, hf, found⟩ | ⟨none, _⟩
  · rw [injective e.id f.id i hi hf]
    exact found
  · exact absurd hi (none e he hk)

end Entered

/-- The elements were declared one after the other, and nothing else was. -/
structure Declares (names : Allocation) (rename : String → String) (es : List Element) (b c : Builder) : Prop where
  elements : ∃ ps, c.elements = b.elements ++ ps ∧ List.Forall₂ (PendingElement.Reads names rename) es ps
  drawn : c.drawn = b.drawn + es.length
  table : Entered names rename es b.table c.table
  relationships : c.relationships = b.relationships
  views : c.views = b.views
  positions : c.positions = b.positions
  heading : c.heading = b.heading

namespace Declares

variable {names : Allocation} {rename : String → String} {es fs : List Element} {b c d : Builder}

theorem nil (b : Builder) : Declares names rename [] b b :=
  ⟨⟨[], by simp, .nil⟩, rfl, Entered.nil _, rfl, rfl, rfl, rfl⟩

theorem append (h : Declares names rename es b c) (h' : Declares names rename fs c d) :
    Declares names rename (es ++ fs) b d := by
  obtain ⟨ps, hps, copies⟩ := h.elements
  obtain ⟨qs, hqs, copies'⟩ := h'.elements
  refine ⟨⟨ps ++ qs, ?_, List.rel_append copies copies'⟩, ?_, h.table.append h'.table,
    h'.relationships.trans h.relationships, h'.views.trans h.views, h'.positions.trans h.positions,
    h'.heading.trans h.heading⟩
  · rw [hqs, hps, List.append_assoc]
  · rw [h'.drawn, h.drawn, List.length_append]
    omega

theorem close (h : Declares names rename es b c) : Declares names rename es b c.close :=
  ⟨h.elements, h.drawn, h.table, h.relationships, h.views, h.positions, h.heading⟩

end Declares

/-! ## One declaration -/

namespace Builder

variable {ids : IdSource} {names : Allocation} {rename : String → String} {b : Builder} {s : Statement} {e : Element}

/-- Statements are read as parts of the model. -/
structure InModel (b : Builder) : Prop where
  noViews : b.inViews = false
  reading : b.isSkipping = false

theorem InModel.of_stack {c : Builder} (h : b.InModel) (stack : c.stack = b.stack) : c.InModel := by
  refine ⟨?_, ?_⟩
  · rw [Builder.inViews, stack]
    exact h.noViews
  · rw [isSkipping, inStyles, stack]
    exact h.reading

theorem InModel.of_push {c : Builder} {f : Frame} (h : b.InModel) (stack : c.stack = f :: b.stack)
    (notViews : f ≠ .views) (notStyles : f ≠ .styles) (notBlock : f ≠ .block) : c.InModel := by
  have noViews := h.noViews
  have reading := h.reading
  simp only [Builder.inViews, isSkipping, inStyles, Bool.or_eq_false_iff, List.contains_eq_mem,
    decide_eq_false_iff_not] at noViews reading
  refine ⟨?_, ?_⟩
  · simp [Builder.inViews, stack, notViews.symm, noViews]
  · simp [isSkipping, inStyles, stack, notStyles.symm, notBlock, reading.1]

theorem feed_model (h : b.InModel) (notClose : s.isClose = false) :
    b.feed ids s = b.handle ids s (classify s false) := by
  rw [feed_handled ids notClose h.reading, h.noViews]

theorem undotted_qualify {bare reference : String} (b : Builder) (undotted : '.' ∉ reference.toList)
    (h : reference = b.qualify bare) : reference = bare := by
  unfold qualify at h
  split at h
  · rw [h] at undotted
    simp [String.toList_append] at undotted
  · exact h

theorem lastPart_qualify {bare : String} (b : Builder) (undotted : '.' ∉ bare.toList) :
    lastPart (b.qualify bare) = bare := by
  unfold qualify
  split
  · next owner _ =>
    have suffix : isDottedSuffix bare (owner ++ "." ++ bare) = true :=
      isDottedSuffix_iff.2 ⟨owner.toList, by simp [String.toList_append]⟩
    rw [lastPart_of_isDottedSuffix suffix, lastPart_of_bare undotted]
  · exact lastPart_of_bare undotted

theorem reads_element (clean : AllClean (declaredTexts e)) (hk : e.kind ≠ .group) {i : String}
    (hi : names.get? e.id = some i) (word : IsWord i.toList) (next : rename e.id = ids b.drawn)
    (parent : b.parentId = e.parentId.map rename) (opens : Bool) :
    ∃ p, (b.onElement ids opens (some i.toList) e.kind (escape e.name.toList)
        (arguments (dropEmptyEnd (declaredValues e)))).elements = b.elements ++ [p] ∧ p.Reads names rename e := by
  have read : quotedArguments (arguments (dropEmptyEnd (declaredValues e))) = dropEmptyEnd (declaredValues e) :=
    quotedArguments_arguments (clean_declaredValues clean hk).dropEmptyEnd
  have undotted : '.' ∉ i.toList := fun dot => absurd (word.forall_mem '.' dot) (by decide)
  refine ⟨_, rfl, next.symm, rfl, ?_, parent, fun _ => ?_, fun _ => ?_, fun _ => ?_, fun _ => ?_, fun _ j hj => ?_,
    fun group => absurd group hk⟩
  · rw [unescape_escape (clean_name clean), String.ofList_toList]
  · simp only [read]
    exact description_declaredValues e
  · simp only [read]
    rfl
  · simp only [read]
    rfl
  · simp only [read]
    rfl
  · simp only [String.ofList_toList, lastPart_qualify b undotted]
    exact Option.some.inj (hi.symm.trans hj)

/-- The header of an element's block, or the line that declares it. -/
def elementHeader (names : Allocation) (e : Element) : List Char :=
  identifierOf names e.id ++ " = ".toList ++ declaration e

def groupHeader (e : Element) : List Char := "group ".toList ++ quote e.name.toList

theorem elementHeader_eq {i : String} (hi : names.get? e.id = some i) :
    elementHeader names e = i.toList ++ " = ".toList ++
      (e.kind.keyword.toList ++ ' ' :: (quote e.name.toList ++ arguments (dropEmptyEnd (declaredValues e)))) := by
  rw [elementHeader, identifierOf, hi, declaration_eq, arguments_cons]
  rfl

theorem classify_elementHeader (clean : AllClean (declaredTexts e)) (hk : e.kind ≠ .group) {i : String}
    (hi : names.get? e.id = some i) (word : IsWord i.toList) (notReserved : i ∉ reservedWords)
    (hs : Tells s (elementHeader names e)) :
    classify s false = .element (some i.toList) e.kind (escape e.name.toList)
      (arguments (dropEmptyEnd (declaredValues e))) := by
  have ne : i.toList ≠ "workspace".toList := fun e => notReserved (String.toList_inj.1 e ▸ by decide)
  exact classify_declaration hk (clean_name clean) word ne
    (unbroken_arguments (clean_declaredValues clean hk).dropEmptyEnd) (elementHeader_eq hi ▸ hs)

theorem entered_register (b : Builder) {i id : String} (hk : e.kind ≠ .group) (hi : names.get? e.id = some i)
    (next : rename e.id = id) : Entered names rename [e] b.table (b.table.register i (b.qualify i) id) := by
  intro reference undotted
  rw [IdentifierTable.resolve_register]
  by_cases same : reference = i
  · rw [if_pos (.inl same)]
    exact .inl ⟨e, List.mem_singleton_self e, hk, same ▸ hi, congrArg some next.symm⟩
  · have other : ¬ (reference = i ∨ reference = b.qualify i) := fun h =>
      same (h.elim (fun e => e) (undotted_qualify b undotted))
    rw [if_neg other]
    refine .inr ⟨fun f hf _ known => ?_, rfl⟩
    rw [List.mem_singleton.1 hf, hi] at known
    exact same (Option.some.inj known).symm

theorem declares_element (hm : b.InModel) (clean : AllClean (declaredTexts e)) (hk : e.kind ≠ .group) {i : String}
    (hi : names.get? e.id = some i) (word : IsWord i.toList) (notReserved : i ∉ reservedWords)
    (next : rename e.id = ids b.drawn) (parent : b.parentId = e.parentId.map rename)
    (hs : Tells s (elementHeader names e)) :
    Declares names rename [e] b (b.feed ids s) ∧
      ∃ q, (b.feed ids s).stack = if s.opens then .element q (rename e.id) :: b.stack else b.stack := by
  have clause := classify_elementHeader clean hk hi word notReserved hs
  have fed : b.feed ids s = b.onElement ids s.opens (some i.toList) e.kind (escape e.name.toList)
      (arguments (dropEmptyEnd (declaredValues e))) := by
    rw [feed_model hm hs.notClose, clause]
    rfl
  obtain ⟨p, elements, reads⟩ := reads_element clean hk hi word next parent s.opens
  rw [fed]
  refine ⟨⟨⟨[p], elements, .cons reads .nil⟩, rfl, ?_, rfl, rfl, rfl, rfl⟩, b.qualify (String.ofList i.toList), ?_⟩
  · have entered := entered_register b hk hi next
    simp only [onElement, String.ofList_toList]
    exact entered
  · rw [next]
    rfl

theorem declares_group (names : Allocation) (hm : b.InModel) (clean : AllClean (declaredTexts e)) (hk : e.kind = .group)
    (next : rename e.id = ids b.drawn)
    (parent : b.parentId = e.parentId.map rename) (hs : Tells s (groupHeader e)) :
    Declares names rename [e] b (b.feed ids s) ∧
      (b.feed ids s).stack = if s.opens then .group (rename e.id) :: b.stack else b.stack := by
  have clause := classify_group (clean_name clean) hs
  have fed : b.feed ids s = b.onGroup ids s.opens e.name.toList := by
    rw [feed_model hm hs.notClose, clause]
    rfl
  rw [fed]
  refine ⟨⟨⟨_, rfl, .cons ?_ .nil⟩, rfl, ?_, rfl, rfl, rfl, rfl⟩, ?_⟩
  · exact ⟨next.symm, hk.symm, String.ofList_toList, parent, fun h => absurd hk h, fun h => absurd hk h,
      fun h => absurd hk h, fun h => absurd hk h, fun h => absurd hk h, fun _ => rfl⟩
  · intro reference _
    exact .inr ⟨fun f hf hf' => absurd (List.mem_singleton.1 hf ▸ hk) hf', rfl⟩
  · rw [next]
    rfl

theorem solid_groupHeader (clean : AllClean (declaredTexts e)) : Solid (groupHeader e) := by
  have start : "group ".toList = "group".toList ++ [' '] := rfl
  have header : groupHeader e = "group".toList ++ arguments [e.name] := by
    calc groupHeader e = "group ".toList ++ quote e.name.toList := rfl
      _ = "group".toList ++ arguments [e.name] := by simp [start, arguments]
  rw [header]
  exact solid_word (isWord_keyword .group) (by simp) (allClean_singleton.2 (clean_name clean))

theorem solid_elementHeader (clean : AllClean (declaredTexts e)) (hk : e.kind ≠ .group) {i : String}
    (hi : names.get? e.id = some i) (word : IsWord i.toList) : Solid (elementHeader names e) := by
  have header : elementHeader names e =
      i.toList ++ " = ".toList ++ e.kind.keyword.toList ++ arguments (e.name :: dropEmptyEnd (declaredValues e)) := by
    rw [elementHeader, identifierOf, hi, declaration_eq, ← List.append_assoc]
    rfl
  have kind := isWord_keyword e.kind
  obtain ⟨c, hc, letter⟩ := word.head
  rw [header]
  refine solid_arguments ⟨c, ?_, letter⟩ ?_ ?_ (by simp)
    (allClean_cons.2 ⟨clean_name clean, (clean_declaredValues clean hk).dropEmptyEnd⟩)
  · rw [List.append_assoc, List.head?_append, hc]
    rfl
  · exact isUnbroken_append.2 ⟨isUnbroken_append.2 ⟨word.unbroken, by decide⟩, kind.unbroken⟩
  · have equals : IsFlat " = ".toList := by decide
    exact ((isFlat_word word).append equals).append (isFlat_word kind)

/-! ## All declarations -/

variable {es : List Element}

theorem readable_trees (named : names.Names es) (clean : ∀ e ∈ es, AllClean (declaredTexts e)) {trees : List Tree}
    {roots : List Element} (h : Grown es trees roots) (known : ∀ r ∈ roots, r ∈ es) :
    Outline.AreReadable (treeOutlines names trees) := by
  induction h with
  | nil => trivial
  | @cons e nested trees roots _ _ ihNested ih =>
    have he := known e List.mem_cons_self
    have inner := ihNested fun _ => mem_of_mem_nestedIn
    have later := ih fun r hr => known r (List.mem_cons_of_mem _ hr)
    refine ⟨?_, later⟩
    rw [treeOutline]
    split
    · exact ⟨solid_groupHeader (clean e he), inner⟩
    · next hk =>
      obtain ⟨i, hi, word, _⟩ := named.named e he
      have solid := solid_elementHeader (clean e he) hk hi word
      cases (nestedIn es (some e.id)).isEmpty with
      | false => exact ⟨solid, inner⟩
      | true => exact .inl solid

variable {step : List Char}

theorem treeOutline_group (names : Allocation) (hk : e.kind = .group) (encloses : Bool) (nested : List Tree) :
    treeOutline names (.node e encloses nested) = .block (groupHeader e) (treeOutlines names nested) := by
  rw [treeOutline, if_pos hk]
  rfl

theorem treeOutline_element (names : Allocation) (hk : e.kind ≠ .group) (encloses : Bool) (nested : List Tree) :
    treeOutline names (.node e encloses nested) =
      if encloses then .block (elementHeader names e) (treeOutlines names nested)
      else .line (elementHeader names e) := by
  rw [treeOutline, if_neg hk]
  rfl

/-- A block that was opened for an element declares what is nested in it, and is closed. -/
theorem declares_block {c d : Builder} {f : Frame} {nested : List Element}
    (declared : Declares names rename [e] b c) (stack : c.stack = f :: b.stack)
    (inner : Declares names rename nested c d ∧ d.stack = c.stack) :
    Declares names rename (e :: nested) b d.close ∧ d.close.stack = b.stack := by
  refine ⟨(declared.append inner.1).close, ?_⟩
  rw [close, inner.2, stack]
  rfl

/-- A tree, if what is nested in its element is declared inside the element's block. -/
theorem declares_tree (ids : IdSource) (hstep : IsIndent step) (clean : AllClean (declaredTexts e)) {i : String}
    (hi : names.get? e.id = some i) (word : IsWord i.toList) (notReserved : i ∉ reservedWords)
    {nested : List Tree} (depth n : Nat) (hm : b.InModel)
    (next : rename e.id = ids b.drawn) (parent : b.parentId = e.parentId.map rename) {encloses : Bool}
    (leaf : encloses = false → nested = [])
    (inside : ∀ c : Builder, c.InModel → c.parentId = some (rename e.id) → c.drawn = b.drawn + 1 →
      Declares names rename (Tree.preorderAll nested) c
          (c.feedOutlines ids step (depth + 1) (n + 1) (treeOutlines names nested)) ∧
        (c.feedOutlines ids step (depth + 1) (n + 1) (treeOutlines names nested)).stack = c.stack) :
    ∃ c, b.feedAll ids (statementsAt n ((treeOutline names (.node e encloses nested)).lines step depth)) = c ∧
      Declares names rename (e :: Tree.preorderAll nested) b c ∧ c.stack = b.stack := by
  refine ⟨_, rfl, ?_⟩
  by_cases hk : e.kind = .group
  · have solid := solid_groupHeader clean
    obtain ⟨declared, stack⟩ := declares_group names hm clean hk next parent (tells_opening solid n)
    rw [opens_opening, if_pos rfl] at stack
    rw [treeOutline_group names hk, feedAll_block hstep solid]
    exact declares_block declared stack
      (inside _ (hm.of_push stack (by simp) (by simp) (by simp)) (by rw [parentId, stack]) declared.drawn)
  · have solid := solid_elementHeader clean hk hi word
    rw [treeOutline_element names hk]
    cases encloses with
    | true =>
      obtain ⟨declared, q, stack⟩ := declares_element hm clean hk hi word notReserved next parent (tells_opening solid n)
      rw [opens_opening, if_pos rfl] at stack
      rw [if_pos rfl, feedAll_block hstep solid]
      exact declares_block declared stack
        (inside _ (hm.of_push stack (by simp) (by simp) (by simp)) (by rw [parentId, stack]) declared.drawn)
    | false =>
      obtain ⟨declared, q, stack⟩ := declares_element hm clean hk hi word notReserved next parent (tells_line solid n)
      rw [opens_solid solid, if_neg (by simp)] at stack
      rw [leaf rfl, if_neg (by simp), feedAll_line hstep solid]
      exact ⟨declared, stack⟩

theorem declares_trees (ids : IdSource) (hstep : IsIndent step) (named : names.Names es)
    (clean : ∀ e ∈ es, AllClean (declaredTexts e)) {trees : List Tree} {roots : List Element} (h : Grown es trees roots)
    (known : ∀ r ∈ roots, r ∈ es) (depth n : Nat) (b : Builder) (hm : b.InModel)
    (parents : ∀ r ∈ roots, b.parentId = r.parentId.map rename)
    (draws : Draws ids rename b.drawn (Tree.preorderAll trees)) :
    Declares names rename (Tree.preorderAll trees) b (b.feedOutlines ids step depth n (treeOutlines names trees)) ∧
      (b.feedOutlines ids step depth n (treeOutlines names trees)).stack = b.stack := by
  induction h generalizing b depth n with
  | nil => exact ⟨Declares.nil b, rfl⟩
  | @cons e nested trees roots grownNested _ ihNested ih =>
    have he := known e List.mem_cons_self
    obtain ⟨i, hi, word, notReserved⟩ := named.named e he
    rw [Tree.preorderAll, Tree.preorder] at draws ⊢
    obtain ⟨⟨next, drawsNested⟩, drawsLater⟩ := draws_append.1 draws
    have leaf : (!(nestedIn es (some e.id)).isEmpty) = false → nested = [] := by
      intro none
      rw [Bool.not_eq_false', List.isEmpty_iff] at none
      exact (none ▸ grownNested).eq_nil
    obtain ⟨m, rest⟩ := feedOutlines_cons ids step depth n b
      (treeOutline names (.node e (!(nestedIn es (some e.id)).isEmpty) nested)) (treeOutlines names trees)
    obtain ⟨c, hc, declared, stack⟩ := declares_tree ids hstep (clean e he) hi word notReserved depth n hm next
      (parents e List.mem_cons_self) leaf fun c inModel parentC count =>
        ihNested (fun _ => mem_of_mem_nestedIn) _ _ c inModel
          (fun r hr => by rw [parentC, (mem_nestedIn_some.1 hr).2]; rfl) (count ▸ drawsNested)
    have count := declared.drawn
    obtain ⟨later, same⟩ := ih (fun r hr => known r (List.mem_cons_of_mem _ hr)) depth m c (hm.of_stack stack)
      (fun r hr => by
        rw [← parents r (List.mem_cons_of_mem _ hr), parentId, parentId, stack]) (count ▸ drawsLater)
    rw [treeOutlines, rest, hc]
    exact ⟨declared.append later, same.trans stack⟩

end Builder

end Blueprint.Dsl
