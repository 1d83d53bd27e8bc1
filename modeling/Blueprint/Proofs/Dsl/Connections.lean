/-
  Blueprint.Proofs.Dsl.Connections — written relationships are resolved to the elements they connect.

  A relationship is written just if both its ends are elements that are no groups. Its line names them by
  their identifiers, none of which is the reference to the enclosing element, and no element's block is
  open where it stands. Once every element is entered, each identifier leads to its element's new id.

  Proved: which relationships are written, and as which line (`relationshipLine?_eq`); what a builder takes
  in (`connects_relationships`), and what it is resolved to (`copies_resolveRelationships`).
-/

import Blueprint.Dsl.Document
import Blueprint.Proofs.Dsl.Trees
import Blueprint.Proofs.Identifier.Source

namespace Blueprint

open Text Dsl

/-- The id is that of an element, and of none that is a group. -/
def Workspace.canEnd (ws : Workspace) (id : String) : Bool :=
  ws.elements.any fun e => e.id == id && e.kind != .group

/-- The relationship has an element that is no group at both ends. -/
def Workspace.connects (ws : Workspace) (r : Relationship) : Bool := ws.canEnd r.sourceId && ws.canEnd r.targetId

/-- The relationship with its ends renamed; ids and kinds of relationships are not written. -/
structure Relationship.Copies (rename : String → String) (r s : Relationship) : Prop where
  sourceId : s.sourceId = rename r.sourceId
  targetId : s.targetId = rename r.targetId
  description : s.description = r.description
  technology : s.technology = r.technology
  tags : s.tags = r.tags

namespace Dsl

variable {ws : Workspace} {names : Allocation} {r : Relationship}

theorem canEnd_iff {id : String} : ws.canEnd id = true ↔ ∃ e ∈ ws.elements, e.id = id ∧ e.kind ≠ .group := by
  simp [Workspace.canEnd]

/-! ## Lines -/

/-- What a relationship's line says after its ends. -/
def connectionValues (r : Relationship) : List String :=
  r.description :: dropEmptyEnd [r.technology.getD "", joinTags r.tags]

def connectionLine (source target : String) (r : Relationship) : List Char :=
  source.toList ++ " -> ".toList ++ (target.toList ++ arguments (connectionValues r))

/-- Whatever the ids are, a relationship is written by the identifiers of its ends. -/
theorem eq_of_relationshipLine? {o : Outline} (h : relationshipLine? ws names r = some o) :
    ∃ i j, names.get? r.sourceId = some i ∧ names.get? r.targetId = some j ∧ o = .line (connectionLine i j r) := by
  unfold relationshipLine? at h
  split at h
  · cases h
  · split at h
    · next i j hi hj =>
      refine ⟨i, j, hi, hj, ?_⟩
      rw [← Option.some.inj h]
      simp [connectionLine, connectionValues, arguments_cons, quotedTail_eq]
    · cases h

theorem isGroupId_eq (ids : ws.elementIds.Nodup) {e : Element} (he : e ∈ ws.elements) :
    isGroupId ws.elements e.id = (e.kind == .group) := by
  rw [Bool.eq_iff_iff, isGroupId, List.any_eq_true]
  constructor
  · rintro ⟨f, hf, both⟩
    obtain ⟨group, same⟩ := Bool.and_eq_true_iff.1 both
    rw [List.inj_on_of_nodup_map ids hf he (by simpa using same)] at group
    exact group
  · intro group
    exact ⟨e, he, by simp [group]⟩

/-- An end that can be one has an identifier and is no group; any other has no identifier or is a group. -/
theorem canEnd_cases (ids : ws.elementIds.Nodup) (named : names.Names ws.elements) (id : String) :
    (ws.canEnd id = true ∧ isGroupId ws.elements id = false ∧
        ∃ i, names.get? id = some i ∧ IsWord i.toList ∧ i ∉ reservedWords) ∨
      (ws.canEnd id = false ∧ (isGroupId ws.elements id = true ∨ names.get? id = none)) := by
  by_cases known : id ∈ ws.elementIds
  · obtain ⟨e, he, rfl⟩ := List.mem_map.1 known
    have group := isGroupId_eq ids he
    by_cases hk : e.kind = .group
    · refine .inr ⟨Bool.eq_false_iff.2 fun can => ?_, .inl (by rw [group, hk]; rfl)⟩
      obtain ⟨f, hf, same, notGroup⟩ := canEnd_iff.1 can
      exact notGroup (List.inj_on_of_nodup_map ids hf he same ▸ hk)
    · exact .inl ⟨canEnd_iff.2 ⟨e, he, rfl, hk⟩, by rw [group]; simpa using hk, named.named e he⟩
  · refine .inr ⟨Bool.eq_false_iff.2 fun can => ?_, .inr ?_⟩
    · obtain ⟨e, he, rfl, _⟩ := canEnd_iff.1 can
      exact known (List.mem_map_of_mem he)
    · cases hi : names.get? id with
      | none => rfl
      | some i => exact absurd (named.known id i hi) known

theorem relationshipLine?_eq (ids : ws.elementIds.Nodup) (named : names.Names ws.elements) (r : Relationship) :
    (ws.connects r = false ∧ relationshipLine? ws names r = none) ∨
      ∃ i j, ws.connects r = true ∧ names.get? r.sourceId = some i ∧ names.get? r.targetId = some j ∧
        (IsWord i.toList ∧ i ∉ reservedWords) ∧ (IsWord j.toList ∧ j ∉ reservedWords) ∧
        relationshipLine? ws names r = some (.line (connectionLine i j r)) := by
  unfold relationshipLine? Workspace.connects
  rcases canEnd_cases ids named r.sourceId with ⟨can, single, i, hi, word⟩ | ⟨cannot, group | none⟩
  · rcases canEnd_cases ids named r.targetId with ⟨can', single', j, hj, word'⟩ | ⟨cannot, group | none⟩
    · refine .inr ⟨i, j, by simp [can, can'], hi, hj, word, word', ?_⟩
      simp [single, single', hi, hj, connectionLine, connectionValues, arguments_cons, quotedTail_eq]
    · exact .inl (by simp [cannot, group])
    · exact .inl (by simp [cannot, none, hi])
  · exact .inl (by simp [cannot, group])
  · exact .inl (by simp [cannot, none])

theorem getD_connectionValues (r : Relationship) (n : Nat) :
    (connectionValues r)[n + 1]?.getD "" = [r.technology.getD "", joinTags r.tags][n]?.getD "" := by
  rw [connectionValues, List.getElem?_cons_succ, getD_dropEmptyEnd]

section Writable

variable (h : r.IsWritable)

include h

theorem allClean_connectionValues : AllClean (connectionValues r) := by
  have technology : IsClean (r.technology.getD "").toList := by
    cases ht : r.technology with
    | none => exact fun c hc => by cases hc
    | some t => exact (h.technology t ht).2
  have tags : IsClean (joinTags r.tags).toList := isClean_joinTags fun tag htag => (h.tags tag htag).2
  have rest : AllClean [r.technology.getD "", joinTags r.tags] :=
    allClean_cons.2 ⟨technology, allClean_singleton.2 tags⟩
  exact allClean_cons.2 ⟨h.description, rest.dropEmptyEnd⟩

theorem technology_connectionValues : Builder.optional (connectionValues r) 1 = r.technology :=
  Builder.optional_of_getD (getD_connectionValues r 0) fun t ht => (h.technology t ht).1

theorem tags_connectionValues : Builder.tagsAt (connectionValues r) 2 = r.tags := by
  rw [Builder.tagsAt_eq, getD_connectionValues]
  exact splitTags_joinTags fun tag htag => (h.tags tag htag).1

end Writable

theorem solid_connectionLine (clean : AllClean (connectionValues r)) {i j : String} (hi : IsWord i.toList)
    (hj : IsWord j.toList) : Solid (connectionLine i j r) := by
  have arrow : IsFlat " -> ".toList := by decide
  obtain ⟨c, hc, letter⟩ := hi.head
  rw [connectionLine, ← List.append_assoc]
  refine solid_arguments ⟨c, ?_, letter⟩ ?_ (((isFlat_word hi).append arrow).append (isFlat_word hj))
    (by simp [connectionValues]) clean
  · rw [List.append_assoc, List.head?_append, hc]
    rfl
  · exact isUnbroken_append.2 ⟨isUnbroken_append.2 ⟨hi.unbroken, by decide⟩, hj.unbroken⟩

/-! ## Reading the lines -/

/-- The relationship as it is taken in from its line, its ends still by their identifiers. -/
structure PendingRelationship.Reads (names : Allocation) (r : Relationship) (p : PendingRelationship) : Prop where
  source : names.get? r.sourceId = some p.source
  target : names.get? r.targetId = some p.target
  description : p.description = r.description
  technology : p.technology = Builder.optional (connectionValues r) 1
  tags : p.tags = Builder.tagsAt (connectionValues r) 2

/-- These relationships were taken in, and nothing else was. -/
structure Connects (names : Allocation) (rs : List Relationship) (b c : Builder) : Prop where
  relationships : ∃ ps, c.relationships = b.relationships ++ ps ∧
    List.Forall₂ (PendingRelationship.Reads names) rs ps
  elements : c.elements = b.elements
  table : c.table = b.table
  views : c.views = b.views
  positions : c.positions = b.positions
  heading : c.heading = b.heading
  stack : c.stack = b.stack

namespace Connects

variable {rs ss : List Relationship} {b c d : Builder}

theorem nil (b : Builder) : Connects names [] b b :=
  ⟨⟨[], (List.append_nil _).symm, .nil⟩, rfl, rfl, rfl, rfl, rfl, rfl⟩

theorem append (h : Connects names rs b c) (h' : Connects names ss c d) : Connects names (rs ++ ss) b d := by
  obtain ⟨ps, hps, copies⟩ := h.relationships
  obtain ⟨qs, hqs, copies'⟩ := h'.relationships
  refine ⟨⟨ps ++ qs, ?_, List.rel_append copies copies'⟩, h'.elements.trans h.elements, h'.table.trans h.table,
    h'.views.trans h.views, h'.positions.trans h.positions, h'.heading.trans h.heading, h'.stack.trans h.stack⟩
  rw [hqs, hps, List.append_assoc]

end Connects

namespace Builder

variable {b : Builder} {s : Statement}

theorem toList_ne_selfReference {i : String} (notReserved : i ∉ reservedWords) : i.toList ≠ selfReference := by
  intro self
  have this : i = "this" := String.toList_inj.1 self
  exact notReserved (this ▸ by decide)

theorem classify_connectionLine (clean : AllClean (connectionValues r)) {i j : String}
    (source : IsWord i.toList ∧ i ∉ reservedWords) (target : IsWord j.toList) (hs : Tells s (connectionLine i j r)) :
    classify s false = .relationship (some i.toList) j.toList (arguments (connectionValues r)) := by
  obtain ⟨rest, args⟩ : ∃ rest, arguments (connectionValues r) = ' ' :: rest := ⟨_, rfl⟩
  have unbroken : IsUnbroken rest := (isUnbroken_cons.1 (args ▸ unbroken_arguments clean)).2
  rw [connectionLine, args] at hs
  rw [args]
  exact classify_relationship source.1 (by rw [String.ofList_toList]; exact source.2) target unbroken hs

theorem connects_relationship (ids : IdSource) (hm : b.InModel) (clean : AllClean (connectionValues r)) {i j : String}
    (hi : names.get? r.sourceId = some i) (hj : names.get? r.targetId = some j)
    (source : IsWord i.toList ∧ i ∉ reservedWords) (target : IsWord j.toList ∧ j ∉ reservedWords)
    (hs : Tells s (connectionLine i j r)) : Connects names [r] b (b.feed ids s) := by
  have clause := classify_connectionLine clean source target.1 hs
  have fed : b.feed ids s = b.onRelationship s.line (some i.toList) j.toList (arguments (connectionValues r)) := by
    rw [feed_model hm hs.notClose, clause]
    rfl
  have read : quotedArguments (arguments (connectionValues r)) = connectionValues r :=
    quotedArguments_arguments clean
  have resolved : b.sourceOf (some i.toList) = some i := by
    rw [sourceOf, if_neg (toList_ne_selfReference source.2), String.ofList_toList]
  have resolved' : b.targetOf j.toList = j := by
    rw [targetOf, if_neg (toList_ne_selfReference target.2), String.ofList_toList]
  rw [fed, onRelationship, resolved]
  refine ⟨⟨_, rfl, .cons ⟨hi, ?_, ?_, ?_, ?_⟩ .nil⟩, rfl, rfl, rfl, rfl, rfl, rfl⟩
  · rw [resolved', hj]
  · rw [read]
    rfl
  · rw [read]
  · rw [read]

variable {step : List Char}

theorem readable_relationships (ids : ws.elementIds.Nodup) (named : names.Names ws.elements)
    {rs : List Relationship} (clean : ∀ r ∈ rs, ws.connects r = true → AllClean (connectionValues r)) :
    Outline.AreReadable (rs.filterMap (relationshipLine? ws names)) := by
  refine Outline.areReadable_iff.2 fun o ho => ?_
  obtain ⟨r, hr, line⟩ := List.mem_filterMap.1 ho
  rcases relationshipLine?_eq ids named r with ⟨_, none⟩ | ⟨i, j, connects, _, _, source, target, written⟩
  · rw [none] at line
    cases line
  · rw [written] at line
    cases line
    exact .inl (solid_connectionLine (clean r hr connects) source.1 target.1)

theorem connects_relationships (source : IdSource) (hstep : IsIndent step) (ids : ws.elementIds.Nodup)
    (named : names.Names ws.elements) {rs : List Relationship}
    (clean : ∀ r ∈ rs, ws.connects r = true → AllClean (connectionValues r)) (depth n : Nat) (b : Builder) (hm : b.InModel) :
    Connects names (rs.filter ws.connects) b
      (b.feedOutlines source step depth n (rs.filterMap (relationshipLine? ws names))) := by
  induction rs generalizing b n with
  | nil => exact Connects.nil b
  | cons r rs ih =>
    have later := fun n b => ih (fun s hs => clean s (List.mem_cons_of_mem _ hs)) n b
    rcases relationshipLine?_eq ids named r with ⟨unconnected, none⟩ |
      ⟨i, j, connects, hi, hj, first, second, written⟩
    · rw [List.filterMap_cons_none none, List.filter_cons_of_neg (by simp [unconnected])]
      exact later n b hm
    · have here := clean r List.mem_cons_self connects
      have solid := solid_connectionLine here first.1 second.1
      obtain ⟨m, e⟩ := feedOutlines_cons source step depth n b (.line (connectionLine i j r))
        (rs.filterMap (relationshipLine? ws names))
      rw [List.filterMap_cons_some written, List.filter_cons_of_pos connects, e, feedAll_line hstep solid]
      have taken := connects_relationship source hm here hi hj first second (tells_line solid n)
      exact taken.append (later m _ (hm.of_stack taken.stack))

/-! ## Resolving -/

theorem copies_resolveRelationships {ids : IdSource} {rename : String → String} {rs : List Relationship}
    {ps : List PendingRelationship} (reads : List.Forall₂ (PendingRelationship.Reads names) rs ps)
    (writable : ∀ r ∈ rs, r.IsWritable)
    (found : ∀ r ∈ rs, ∀ i, (names.get? r.sourceId = some i → b.idOf? i = some (rename r.sourceId)) ∧
      (names.get? r.targetId = some i → b.idOf? i = some (rename r.targetId))) (drawn : Nat) :
    List.Forall₂ (Relationship.Copies rename) rs (b.resolveRelationships ids drawn ps).1 := by
  induction reads generalizing drawn with
  | nil => exact .nil
  | @cons r p rs ps read _ ih =>
    have hw := writable r List.mem_cons_self
    have source := (found r List.mem_cons_self p.source).1 read.source
    have target := (found r List.mem_cons_self p.target).2 read.target
    have ends : b.endsOf? p = some (rename r.sourceId, rename r.targetId) := by rw [endsOf?, source, target]
    rw [resolveRelationships, ends]
    exact .cons ⟨rfl, rfl, read.description, read.technology.trans (technology_connectionValues hw),
        read.tags.trans (tags_connectionValues hw)⟩
      (ih (fun s hs => writable s (List.mem_cons_of_mem _ hs)) (fun s hs => found s (List.mem_cons_of_mem _ hs))
        (drawn + 1))

end Builder

end Dsl

end Blueprint
