/-
  Blueprint.Proofs.Dsl.ModelSection — a written document is read as the workspace it was written for.

  A workspace is legible if its elements form a forest with ids of their own and the texts that are written
  are clean. The header of its document gives the name, the model block declares the elements as they are
  nested and then the relationships, and the views follow. So behind the last line a builder holds the
  elements, with the ids that were drawn for them, the relationships, the views and the positions.

  Proved: what is written (`write_eq`), that it can be read (`readable_workspace`), and what a builder holds
  that has read it (`holds_document`).
-/

import Blueprint.Proofs.Dsl.ViewReading

namespace Blueprint

open Text Dsl

/-- Every text that is written in quotes, but for the keys of the views. -/
def Workspace.writtenTexts (ws : Workspace) : List String :=
  [ws.name, ws.description] ++ (Tree.preorderAll ws.forest).flatMap declaredTexts ++
    (ws.relationships.filter fun r => (relationshipLine? ws (Allocation.ofElements ws.elements) r).isSome).flatMap
      connectionValues ++
    (writtenViews ws (Allocation.ofElements ws.elements)).flatMap viewTexts

/-- The elements form a forest and have ids of their own, and what is written of the workspace is clean. -/
structure Workspace.IsLegible (ws : Workspace) : Prop where
  ids : ws.elementIds.Nodup
  lastOfId : ∀ id ∈ ws.elementIds, id.toList.getLast? ≠ some '\n'
  parents : ∀ e ∈ ws.elements, ∀ p, e.parentId = some p → p ∈ ws.elementIds
  acyclic : Acyclic ws.elements
  texts : AllClean ws.writtenTexts

/-- What can be written of a workspace and read again: its texts are clean where they are written, its
elements form a forest and have ids of their own, and every coordinate is a number. -/
structure Workspace.IsWritable (ws : Workspace) : Prop where
  ids : ws.elementIds.Nodup
  lastOfId : ∀ id ∈ ws.elementIds, id.toList.getLast? ≠ some '\n'
  parents : ∀ e ∈ ws.elements, ∀ p, e.parentId = some p → p ∈ ws.elementIds
  acyclic : Acyclic ws.elements
  name : ws.name ≠ "" ∧ IsClean ws.name.toList
  description : IsClean ws.description.toList
  elements : ∀ e ∈ ws.elements, e.IsWritable
  relationships : ∀ r ∈ ws.relationships, ws.connects r = true → r.IsWritable
  views : ∀ v ∈ ws.views, (anchorText? ws (Allocation.ofElements ws.elements) v).isSome → v.IsWritable
  positions : HasFinitePositions ws.elements

namespace Workspace.IsLegible

variable {ws : Workspace} (h : ws.IsLegible)

include h

theorem named : (Allocation.ofElements ws.elements).Names ws.elements :=
  Allocation.names_ofElements fun e he => h.lastOfId e.id (List.mem_map_of_mem he)

theorem grown : Grown ws.elements ws.forest (nestedIn ws.elements none) :=
  grown_forest h.ids fun id _ => h.acyclic id

theorem heading : AllClean [ws.name, ws.description] := fun text ht =>
  h.texts text (List.mem_append_left _ (List.mem_append_left _ (List.mem_append_left _ ht)))

theorem elements : ∀ e ∈ ws.elements, AllClean (declaredTexts e) := fun e he text ht =>
  have inForest := (perm_preorder_forest h.ids h.acyclic).mem_iff.2 he
  h.texts text (List.mem_append_left _ (List.mem_append_left _ (List.mem_append_right _
    (List.mem_flatMap.2 ⟨e, inForest, ht⟩))))

theorem relationships : ∀ r ∈ ws.relationships, ws.connects r = true → AllClean (connectionValues r) := by
  intro r hr connects text ht
  have written : (relationshipLine? ws (Allocation.ofElements ws.elements) r).isSome = true := by
    rcases relationshipLine?_eq h.ids h.named r with ⟨apart, _⟩ | ⟨i, j, _, _, _, _, _, line⟩
    · rw [apart] at connects
      cases connects
    · rw [line]
      rfl
  exact h.texts text (List.mem_append_left _ (List.mem_append_right _
    (List.mem_flatMap.2 ⟨r, List.mem_filter.2 ⟨hr, written⟩, ht⟩)))

theorem views : ∀ v ∈ ws.views, isWritten ws (Allocation.ofElements ws.elements) v = true → AllClean (viewTexts v) :=
  fun v hv written text ht =>
    h.texts text (List.mem_append_right _ (List.mem_flatMap.2 ⟨v, List.mem_filter.2 ⟨hv, written⟩, ht⟩))

end Workspace.IsLegible

theorem Workspace.IsWritable.isLegible {ws : Workspace} (h : ws.IsWritable) : ws.IsLegible := by
  have named : (Allocation.ofElements ws.elements).Names ws.elements :=
    Allocation.names_ofElements fun e he => h.lastOfId e.id (List.mem_map_of_mem he)
  refine ⟨h.ids, h.lastOfId, h.parents, h.acyclic, List.forall_mem_append.2 ⟨List.forall_mem_append.2
    ⟨List.forall_mem_append.2 ⟨allClean_cons.2 ⟨h.name.2, allClean_singleton.2 h.description⟩, ?_⟩, ?_⟩, ?_⟩⟩
  · intro text ht
    obtain ⟨e, he, ht⟩ := List.mem_flatMap.1 ht
    exact clean_of_isWritable (h.elements e ((perm_preorder_forest h.ids h.acyclic).mem_iff.1 he)) text ht
  · intro text ht
    obtain ⟨r, hr, ht⟩ := List.mem_flatMap.1 ht
    obtain ⟨hr, written⟩ := List.mem_filter.1 hr
    rcases relationshipLine?_eq h.ids named r with ⟨_, none⟩ | ⟨_, _, connects, _⟩
    · rw [none] at written
      cases written
    · exact allClean_connectionValues (h.relationships r hr connects) text ht
  · intro text ht
    obtain ⟨v, hv, ht⟩ := List.mem_flatMap.1 ht
    obtain ⟨hv, written⟩ := List.mem_filter.1 hv
    exact clean_viewTexts (h.views v hv written) text ht

theorem Workspace.IsWritable.named {ws : Workspace} (h : ws.IsWritable) :
    (Allocation.ofElements ws.elements).Names ws.elements := h.isLegible.named

theorem Workspace.IsWritable.grown {ws : Workspace} (h : ws.IsWritable) :
    Grown ws.elements ws.forest (nestedIn ws.elements none) := h.isLegible.grown

namespace Dsl

variable {ws : Workspace}

/-! ## What is written -/

def workspaceHeader (ws : Workspace) : List Char :=
  "workspace ".toList ++ quote ws.name.toList ++ ' ' :: quote ws.description.toList

def workspaceParts (ws : Workspace) : List Outline :=
  [.gap, modelOutline ws (Allocation.ofElements ws.elements), .gap,
    .block "views".toList (sectionParts ws (Allocation.ofElements ws.elements))]

/-- The positions that are written are finite. -/
def HasFiniteViews (ws : Workspace) : Prop :=
  HasFinitePositions (shownInViews ws (Allocation.ofElements ws.elements))

theorem write_of_finite (finite : HasFiniteViews ws) (step : List Char) :
    write ws step = .ok (String.ofList ((Outline.block (workspaceHeader ws) (workspaceParts ws)).text step)) := by
  rw [write, workspaceOutline, viewsOutline_eq finite]
  rfl

theorem write_eq (finite : HasFinitePositions ws.elements) (step : List Char) :
    write ws step = .ok (String.ofList ((Outline.block (workspaceHeader ws) (workspaceParts ws)).text step)) :=
  write_of_finite (finite.shown _) step

/-- Only finite positions are written. -/
theorem finite_of_write {step : List Char} {text : String} (h : write ws step = .ok text) : HasFiniteViews ws := by
  obtain ⟨_, outline, _⟩ := bind_eq_ok.1 h
  obtain ⟨_, views, _⟩ := bind_eq_ok.1 outline
  exact finite_of_viewsOutline views

/-! ## That it can be read -/

theorem workspaceHeader_eq (ws : Workspace) :
    workspaceHeader ws = "workspace".toList ++ arguments [ws.name, ws.description] := by
  have start : "workspace ".toList = "workspace".toList ++ [' '] := rfl
  have values : arguments [ws.name, ws.description] =
      [' '] ++ quote ws.name.toList ++ ' ' :: quote ws.description.toList := by simp [arguments]
  calc workspaceHeader ws = "workspace ".toList ++ quote ws.name.toList ++ ' ' :: quote ws.description.toList := rfl
    _ = "workspace".toList ++ arguments [ws.name, ws.description] := by
      rw [start, values]
      simp only [List.append_assoc]

theorem solid_workspaceHeader (h : ws.IsLegible) : Solid (workspaceHeader ws) := by
  have word : IsWord "workspace".toList := by decide
  rw [workspaceHeader_eq]
  exact solid_word word (by simp) h.heading

theorem readable_model (h : ws.IsLegible) :
    (modelOutline ws (Allocation.ofElements ws.elements)).IsReadable := by
  have model : ("model".toList, Frame.model) ∈ Builder.sections := by decide
  refine ⟨Builder.solid_section model, Outline.areReadable_iff.2 (List.forall_mem_append.2 ⟨?_, ?_⟩)⟩
  · refine List.forall_mem_append.2 ⟨?_, ?_⟩
    · exact Outline.areReadable_iff.1 (Builder.readable_trees h.named h.elements h.grown fun _ => mem_of_mem_nestedIn)
    · split
      · exact List.forall_mem_nil _
      · exact List.forall_mem_singleton.2 trivial
  · exact Outline.areReadable_iff.1 (Builder.readable_relationships h.ids h.named h.relationships)

theorem readable_workspace (h : ws.IsLegible) (finite : HasFiniteViews ws) :
    (Outline.block (workspaceHeader ws) (workspaceParts ws)).IsReadable :=
  ⟨solid_workspaceHeader h, trivial, readable_model h, trivial, readable_views h.named finite h.views, trivial⟩

/-! ## What is read -/

/-- The builder holds the name, the elements and the relationships of the workspace, and the identifiers
lead to the elements. -/
structure HoldsModel (rename : String → String) (ws : Workspace) (b : Builder) : Prop where
  heading : b.heading = some (ws.name, ws.description)
  elements : List.Forall₂ (PendingElement.Reads (Allocation.ofElements ws.elements) rename)
    (Tree.preorderAll ws.forest) b.elements
  relationships : List.Forall₂ (PendingRelationship.Reads (Allocation.ofElements ws.elements))
    (ws.relationships.filter ws.connects) b.relationships
  table : Entered (Allocation.ofElements ws.elements) rename (Tree.preorderAll ws.forest) {} b.table

/-- The builder holds the views as well, if there are any, and the positions that they record. -/
structure Holds (rename : String → String) (ws : Workspace) (b : Builder) : Prop extends HoldsModel rename ws b where
  views : ws.views ≠ [] → List.Forall₂ (PendingView.Reads ws (Allocation.ofElements ws.elements))
    (writtenViews ws (Allocation.ofElements ws.elements)) b.views
  positions : b.positions = Positions.recordAll b.table {}
    ((shownInViews ws (Allocation.ofElements ws.elements)).map (recordOf (Allocation.ofElements ws.elements)))

/-- The builder holds what a workspace says that can be written and read again. -/
structure Retells (rename : String → String) (ws : Workspace) (b : Builder) : Prop
    extends Holds rename ws b where
  writable : ws.IsWritable

/-- The builder holds the name, and nothing else yet. -/
structure Begun (ws : Workspace) (b : Builder) : Prop where
  heading : b.heading = some (ws.name, ws.description)
  elements : b.elements = []
  relationships : b.relationships = []
  table : b.table = {}
  views : b.views = []
  positions : b.positions = {}

namespace HoldsModel

variable {rename : String → String} {b c d : Builder}

theorem of_same (h : HoldsModel rename ws b) (same : b.SameModel c) : HoldsModel rename ws c := by
  refine ⟨same.heading.trans h.heading, ?_, ?_, ?_⟩
  · rw [same.elements]
    exact h.elements
  · rw [same.relationships]
    exact h.relationships
  · rw [same.table]
    exact h.table

theorem of_begun (begun : Begun ws b)
    (declared : Declares (Allocation.ofElements ws.elements) rename (Tree.preorderAll ws.forest) b c)
    (connected : Connects (Allocation.ofElements ws.elements) (ws.relationships.filter ws.connects) c d) :
    HoldsModel rename ws d := by
  obtain ⟨ps, hps, reads⟩ := declared.elements
  obtain ⟨qs, hqs, links⟩ := connected.relationships
  refine ⟨(connected.heading.trans declared.heading).trans begun.heading, ?_, ?_, ?_⟩
  · rw [connected.elements, hps, begun.elements]
    exact reads
  · rw [hqs, declared.relationships, begun.relationships]
    exact links
  · rw [connected.table, ← begun.table]
    exact declared.table

end HoldsModel

namespace Builder

variable {ids : IdSource} {rename : String → String} {b c : Builder} {step : List Char}

/-- Roots have no parent, and inside the model block none is given. -/
theorem parentId_model (h : ws.IsLegible) {r : Element} (hr : r ∈ nestedIn ws.elements none) :
    (b.push .model).parentId = r.parentId.map rename := by
  obtain ⟨member, dangling⟩ := mem_nestedIn_none.1 hr
  cases hp : r.parentId with
  | none => rfl
  | some p => exact absurd (h.parents r member p hp) (dangling p hp)

/-- The model block declares the elements and connects them. -/
theorem holds_model (hstep : IsIndent step) (h : ws.IsLegible) (depth n : Nat) (hm : b.InModel)
    (begun : Begun ws b) (draws : Draws ids rename b.drawn (Tree.preorderAll ws.forest)) :
    ∃ c, b.feedAll ids (statementsAt n ((modelOutline ws (Allocation.ofElements ws.elements)).lines step depth)) = c ∧
      HoldsModel rename ws c ∧ c.stack = b.stack ∧ c.views = [] ∧ c.positions = {} := by
  refine ⟨_, rfl, ?_⟩
  have model : ("model".toList, Frame.model) ∈ sections := by decide
  have inModel : (b.push .model).InModel := hm.of_push rfl (by simp) (by simp) (by simp)
  obtain ⟨m, e⟩ := (b.push .model).feedOutlines_append ids step (depth + 1) (n + 1)
    (treeOutlines (Allocation.ofElements ws.elements) ws.forest ++ (if ws.elements.isEmpty then [] else [.gap]))
    (ws.relationships.filterMap (relationshipLine? ws (Allocation.ofElements ws.elements)))
  obtain ⟨m', e'⟩ := (b.push .model).feedOutlines_append ids step (depth + 1) (n + 1)
    (treeOutlines (Allocation.ofElements ws.elements) ws.forest) (if ws.elements.isEmpty then [] else [.gap])
  have gap : ∀ d : Builder,
      d.feedOutlines ids step (depth + 1) m' (if ws.elements.isEmpty then [] else [.gap]) = d := by
    intro d
    split <;> rfl
  obtain ⟨declared, stack⟩ := declares_trees ids hstep h.named h.elements h.grown (fun _ => mem_of_mem_nestedIn)
    (depth + 1) (n + 1) (b.push .model) inModel (fun _ hr => parentId_model h hr) draws
  rw [modelOutline, feedAll_block hstep (solid_section model), feed_section ids model hm.reading, e, e', gap]
  generalize (b.push .model).feedOutlines ids step (depth + 1) (n + 1) _ = c at declared stack
  have connected := connects_relationships ids hstep h.ids h.named h.relationships (depth + 1) m c
    (inModel.of_stack stack)
  have begun' : Begun ws (b.push .model) :=
    ⟨begun.heading, begun.elements, begun.relationships, begun.table, begun.views, begun.positions⟩
  have holds := HoldsModel.of_begun begun' declared connected
  refine ⟨⟨holds.heading, holds.elements, holds.relationships, holds.table⟩, ?_, ?_, ?_⟩
  · rw [close, connected.stack, stack]
    rfl
  · exact (connected.views.trans declared.views).trans begun.views
  · exact (connected.positions.trans declared.positions).trans begun.positions

/-- The first statement gives the name and the description, and opens the block of the workspace. -/
theorem feed_workspaceHeader (ids : IdSource) (h : ws.IsLegible) (noHeading : b.heading = none)
    (reading : b.isSkipping = false) (n : Nat) :
    b.feed ids { text := opening (workspaceHeader ws), line := n } =
      { b with heading := some (ws.name, ws.description), stack := .workspace :: b.stack } := by
  have tells := tells_opening (solid_workspaceHeader h) n
  have clean := h.heading
  have text : workspaceHeader ws =
      "workspace".toList ++ ' ' :: (quote ws.name.toList ++ arguments [ws.description]) := workspaceHeader_eq ws
  have unbroken : IsUnbroken (quote ws.name.toList ++ arguments [ws.description]) :=
    (isUnbroken_cons.1 (unbroken_arguments clean)).2
  have clause : classify { text := opening (workspaceHeader ws), line := n } b.inViews =
      .workspace (arguments [ws.name, ws.description]) := classify_workspace _ unbroken (text ▸ tells)
  rw [feed_handled ids tells.notClose reading, clause, handle, opens_opening, onWorkspace, noHeading,
    quotedArguments_arguments clean]
  rfl

theorem holds_parts (hstep : IsIndent step) (h : ws.IsLegible) (finite : HasFiniteViews ws) (depth n : Nat)
    (hm : b.InModel) (begun : Begun ws b) (draws : Draws ids rename b.drawn (Tree.preorderAll ws.forest)) :
    Holds rename ws (b.feedOutlines ids step depth n (workspaceParts ws)) := by
  let views : Outline := .block "views".toList (sectionParts ws (Allocation.ofElements ws.elements))
  obtain ⟨m, e⟩ := feedOutlines_gap ids step depth n b
    [modelOutline ws (Allocation.ofElements ws.elements), .gap, views]
  obtain ⟨m', e'⟩ := feedOutlines_cons ids step depth m b
    (modelOutline ws (Allocation.ofElements ws.elements)) [.gap, views]
  obtain ⟨c, hc, holds, stack, noViews, noPositions⟩ := holds_model hstep h depth m hm begun draws
  obtain ⟨m'', e''⟩ := feedOutlines_gap ids step depth m' c [views]
  have reads := reads_section ids hstep h.named finite h.views depth m'' (hm.of_stack stack).reading
  rw [workspaceParts, e, e', hc, e'', feedOutlines, Outline.linesOf, Outline.linesOf, List.append_nil]
  refine ⟨holds.of_same reads.toSameModel, fun some => ?_, ?_⟩
  · obtain ⟨ps, hps, views⟩ := reads.views some
    rw [hps, noViews, List.nil_append]
    exact views
  · rw [reads.positions, reads.table, noPositions]

/-- A builder that has read the document of a workspace holds what the workspace says. -/
theorem holds_document (hstep : IsIndent step) (h : ws.IsLegible) (finite : HasFiniteViews ws) (drawn : Nat)
    (draws : Draws ids rename drawn (Tree.preorderAll ws.forest)) :
    Holds rename ws (feedAll ids { drawn }
      (tokenize (String.ofList ((Outline.block (workspaceHeader ws) (workspaceParts ws)).text step)))) := by
  rw [feedAll_text hstep (readable_workspace h finite), feed_workspaceHeader ids h rfl rfl]
  have whole := holds_parts hstep h finite 1 2
    (b := { drawn, heading := some (ws.name, ws.description), stack := [.workspace] })
    ⟨rfl, rfl⟩ ⟨rfl, rfl, rfl, rfl, rfl, rfl⟩ draws
  exact ⟨⟨whole.heading, whole.elements, whole.relationships, whole.table⟩, whole.views, whole.positions⟩

theorem retells_document (hstep : IsIndent step) (h : ws.IsWritable) (drawn : Nat)
    (draws : Draws ids rename drawn (Tree.preorderAll ws.forest)) :
    Retells rename ws (feedAll ids { drawn }
      (tokenize (String.ofList ((Outline.block (workspaceHeader ws) (workspaceParts ws)).text step)))) :=
  ⟨holds_document hstep h.isLegible (h.positions.shown _) drawn draws, h⟩

end Builder

end Dsl

end Blueprint
