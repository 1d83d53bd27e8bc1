/-
  Blueprint.Proofs.Dsl.Blocks — the blocks of a written model (`DSLGenerator._model`).

  The elements are declared root by root, each with what is nested in it before the next one. A declaration
  opens a block where something is nested in the element, and always for a group. The only lines that end in a
  brace are those that open a block and those that close one: every other line ends in a quote or is empty,
  whatever braces there are in its texts.

  Proved: which lines are written and for which elements (`writtenAs_trees`); blocks are closed just where they
  were opened (`WrittenAs.isBalanced`), and what is nested in an element is declared right inside its block
  (`WrittenAs.inBlock`). With distinct ids every element is declared once if its parents lead out, and not at
  all if they lead into a cycle (`declaresOnce`).
-/

import Blueprint.Proofs.Dsl.Connections
import Blueprint.Proofs.Model.Rooted

namespace Blueprint

namespace Dsl

open Text Outline
open Builder (elementHeader groupHeader treeOutline_group treeOutline_element)

/-! ## Balanced lines -/

/-- How many blocks are open behind a line; none if it closes one and none is open. -/
def behindLine (n : Nat) (l : List Char) : Option Nat :=
  if l.getLast? = some '{' then some (n + 1)
  else if l.getLast? = some '}' then (if n = 0 then none else some (n - 1))
  else some n

/-- How many blocks are open behind the lines. -/
def openBehind : Nat → List (List Char) → Option Nat
  | n, [] => some n
  | n, l :: ls => (behindLine n l).bind fun m => openBehind m ls

/-- Every block that is opened in the lines is closed in them, and no other is. -/
def IsBalanced (ls : List (List Char)) : Prop := ∀ n, openBehind n ls = some n

theorem openBehind_append (n : Nat) (ls ms : List (List Char)) :
    openBehind n (ls ++ ms) = (openBehind n ls).bind fun m => openBehind m ms := by
  induction ls generalizing n with
  | nil => rfl
  | cons l ls ih => simp only [List.cons_append, openBehind, ih, Option.bind_assoc]

namespace IsBalanced

variable {l first last : List Char} {ls ms : List (List Char)}

theorem nil : IsBalanced [] := fun _ => rfl

theorem append (h : IsBalanced ls) (h' : IsBalanced ms) : IsBalanced (ls ++ ms) := by
  intro n
  rw [openBehind_append, h n]
  exact h' n

theorem of_append (h : IsBalanced (ls ++ ms)) (front : IsBalanced ls) : IsBalanced ms := by
  intro n
  have whole := h n
  rw [openBehind_append, front n] at whole
  exact whole

theorem plain (notOpens : l.getLast? ≠ some '{') (notCloses : l.getLast? ≠ some '}') : IsBalanced [l] := by
  intro n
  rw [openBehind, behindLine, if_neg notOpens, if_neg notCloses]
  rfl

theorem block (opens : first.getLast? = some '{') (inner : IsBalanced ls) (closes : last.getLast? = some '}') :
    IsBalanced (first :: (ls ++ [last])) := by
  intro n
  have notOpens : last.getLast? ≠ some '{' := by rw [closes]; decide
  rw [openBehind, behindLine, if_pos opens, Option.bind_some, openBehind_append, inner (n + 1), Option.bind_some,
    openBehind, behindLine, if_neg notOpens, if_pos closes]
  rfl

end IsBalanced

/-- The line stands right inside a block of the lines: between it and the line that opens the block, every other
block is closed again, and so is what follows it up to the line that closes the block. -/
def Encloses (first line last : List Char) (ls : List (List Char)) : Prop :=
  ∃ before front back after, ls = before ++ first :: (front ++ line :: (back ++ last :: after)) ∧
    IsBalanced front ∧ IsBalanced (line :: back)

theorem Encloses.append {first line last : List Char} {ls : List (List Char)} (h : Encloses first line last ls)
    (ms ns : List (List Char)) : Encloses first line last (ms ++ (ls ++ ns)) := by
  obtain ⟨before, front, back, after, rfl, balanced⟩ := h
  exact ⟨ms ++ before, front, back, after ++ ns, by simp, balanced⟩

/-! ## What is written -/

variable {es : List Element} {names : Allocation} {step : List Char} {depth : Nat} {e : Element}

/-- What the line says that declares the element. -/
def headerOf (names : Allocation) (e : Element) : List Char :=
  if e.kind = .group then groupHeader e else elementHeader names e

/-- A group has a block, and so has an element that another one names as its parent. -/
def hasBlock (es : List Element) (e : Element) : Bool := e.kind == .group || !(nestedIn es (some e.id)).isEmpty

/-- The line that declares the element, and opens its block if it has one. -/
def declaringLine (es : List Element) (names : Allocation) (e : Element) : List Char :=
  if hasBlock es e then opening (headerOf names e) else headerOf names e

/-- The element is declared right inside the block of the other one, a step further in. -/
def InBlockOf (es : List Element) (names : Allocation) (step : List Char) (p e : Element) (ls : List (List Char)) : Prop :=
  ∃ depth, Encloses (indented step depth (opening (headerOf names p)))
    (indented step (depth + 1) (declaringLine es names e)) (indented step depth ['}']) ls

theorem InBlockOf.append {p : Element} {ls : List (List Char)} (h : InBlockOf es names step p e ls)
    (ms ns : List (List Char)) : InBlockOf es names step p e (ms ++ (ls ++ ns)) :=
  h.imp fun _ encloses => encloses.append ms ns

/-- The lines for elements in order, at a depth, and the elements that they declare from the first to the last. An
element comes before what is nested in it, and that stands in its block and comes before the next element. -/
inductive WrittenAs (es : List Element) (names : Allocation) (step : List Char) :
    Nat → List Element → List (List Char) → List Element → Prop
  | nil (depth : Nat) : WrittenAs es names step depth [] [] []
  | line {depth : Nat} {e : Element} {roots order : List Element} {lines : List (List Char)} :
      hasBlock es e = false → WrittenAs es names step depth roots lines order →
        WrittenAs es names step depth (e :: roots) (indented step depth (declaringLine es names e) :: lines) (e :: order)
  | block {depth : Nat} {e : Element} {roots inside order : List Element} {inner lines : List (List Char)} :
      hasBlock es e = true → WrittenAs es names step (depth + 1) (nestedIn es (some e.id)) inner inside →
        WrittenAs es names step depth roots lines order →
        WrittenAs es names step depth (e :: roots)
          (indented step depth (declaringLine es names e) :: (inner ++ indented step depth ['}'] :: lines))
          (e :: (inside ++ order))

theorem treeOutline_eq (names : Allocation) (e : Element) (nested : List Tree) :
    treeOutline names (.node e (!(nestedIn es (some e.id)).isEmpty) nested) =
      if hasBlock es e then .block (headerOf names e) (treeOutlines names nested) else .line (headerOf names e) := by
  unfold hasBlock headerOf
  by_cases hk : e.kind = .group
  · rw [treeOutline_group names hk, if_pos hk, hk]
    rfl
  · rw [treeOutline_element names hk, if_neg hk]
    simp only [beq_eq_false_iff_ne.2 hk, Bool.false_or]

theorem writtenAs_trees (names : Allocation) (step : List Char) {trees : List Tree} {roots : List Element}
    (h : Grown es trees roots) (depth : Nat) :
    WrittenAs es names step depth roots (linesOf step depth (treeOutlines names trees)) (Tree.preorderAll trees) := by
  induction h generalizing depth with
  | nil => exact .nil depth
  | @cons e nested trees roots grownNested _ ihNested ih =>
    rw [treeOutlines, linesOf, treeOutline_eq, Tree.preorderAll, Tree.preorder, List.cons_append]
    cases hb : hasBlock es e with
    | true =>
      have written := WrittenAs.block hb (ihNested (depth + 1)) (ih depth)
      rw [declaringLine, hb] at written
      simpa [Outline.lines, opening] using written
    | false =>
      have noneNested : nestedIn es (some e.id) = [] := by
        simp only [hasBlock, Bool.or_eq_false_iff, Bool.not_eq_false', List.isEmpty_iff] at hb
        exact hb.2
      have written := WrittenAs.line hb (ih depth)
      rw [declaringLine, hb] at written
      have leaf : nested = [] := (noneNested ▸ grownNested : Grown es nested []).eq_nil
      rw [leaf]
      exact written

/-! ## Where blocks open and close -/

theorem getLast?_append_of_some {cs ds : List Char} {c : Char} (h : ds.getLast? = some c) :
    (cs ++ ds).getLast? = some c := by
  rw [List.getLast?_append, h]
  rfl

theorem getLast?_indented {text : List Char} {c : Char} (h : text.getLast? = some c) (depth : Nat) :
    (indented step depth text).getLast? = some c := getLast?_append_of_some h

theorem getLast?_headerOf (names : Allocation) (e : Element) : (headerOf names e).getLast? = some '"' := by
  unfold headerOf
  split
  · exact getLast?_append_of_some (getLast?_quote e.name.toList)
  · rw [elementHeader, declaration_eq]
    exact getLast?_append_of_some (getLast?_append_of_some (getLast?_arguments (by simp)))

theorem getLast?_connectionLine (i j : String) (r : Relationship) : (connectionLine i j r).getLast? = some '"' :=
  getLast?_append_of_some (getLast?_append_of_some (getLast?_arguments (by simp [connectionValues])))

theorem getLast?_opening (header : List Char) : (opening header).getLast? = some '{' := getLast?_append_of_some rfl

theorem IsBalanced.quoteEnds {l : List Char} (h : l.getLast? = some '"') : IsBalanced [l] :=
  .plain (by rw [h]; decide) (by rw [h]; decide)

theorem isBalanced_opening (step : List Char) (depth : Nat) (header : List Char) {inner : List (List Char)}
    (h : IsBalanced inner) :
    IsBalanced (indented step depth (opening header) :: (inner ++ [indented step depth ['}']])) :=
  .block (getLast?_indented (getLast?_opening header) depth) h (getLast?_indented rfl depth)

namespace WrittenAs

variable {roots order : List Element} {lines : List (List Char)}

theorem isBalanced (h : WrittenAs es names step depth roots lines order) : IsBalanced lines := by
  induction h with
  | nil => exact .nil
  | @line depth e _ _ _ noBlock _ ih =>
    have plain : IsBalanced [indented step depth (declaringLine es names e)] := by
      rw [declaringLine, noBlock]
      exact .quoteEnds (getLast?_indented (getLast?_headerOf names e) depth)
    exact plain.append ih
  | @block depth e _ _ _ _ _ isBlock _ _ ihInside ih =>
    have whole := (isBalanced_opening step depth (headerOf names e) ihInside).append ih
    rw [declaringLine, isBlock]
    simpa using whole

/-- The declarations of the roots stand in no block. -/
theorem line_of_root (h : WrittenAs es names step depth roots lines order) (he : e ∈ roots) :
    ∃ front back, lines = front ++ indented step depth (declaringLine es names e) :: back ∧ IsBalanced front := by
  induction h with
  | nil => cases he
  | @line depth x roots order lines noBlock written ih =>
    rcases List.mem_cons.1 he with rfl | he
    · exact ⟨[], lines, rfl, .nil⟩
    · obtain ⟨front, back, split, balanced⟩ := ih he
      have first : IsBalanced [indented step depth (declaringLine es names x)] := by
        have one := (WrittenAs.line noBlock (.nil depth) : WrittenAs es names step depth [x] _ [x])
        exact one.isBalanced
      exact ⟨_ :: front, back, by rw [split, List.cons_append], first.append balanced⟩
  | @block depth x roots inside order inner lines isBlock nested written _ ih =>
    rcases List.mem_cons.1 he with rfl | he
    · exact ⟨[], _, rfl, .nil⟩
    · obtain ⟨front, back, split, balanced⟩ := ih he
      have one := (WrittenAs.block isBlock nested (.nil depth)).isBalanced
      have both := one.append balanced
      rw [List.cons_append, List.append_assoc] at both
      refine ⟨_, back, ?_, both⟩
      rw [split]
      simp

/-- An element that is no root is declared in the block of an element that it names as its parent. -/
theorem inBlock (h : WrittenAs es names step depth roots lines order) (members : ∀ r ∈ roots, r ∈ es)
    (he : e ∈ order) : e ∈ roots ∨ ∃ p ∈ es, e.parentId = some p.id ∧ InBlockOf es names step p e lines := by
  induction h with
  | nil => cases he
  | @line depth x roots order lines noBlock written ih =>
    rcases List.mem_cons.1 he with rfl | he
    · exact .inl List.mem_cons_self
    · rcases ih (fun r hr => members r (List.mem_cons_of_mem _ hr)) he with root | ⟨p, hp, link, inside⟩
      · exact .inl (List.mem_cons_of_mem _ root)
      · have wider := inside.append [indented step depth (declaringLine es names x)] []
        rw [List.append_nil] at wider
        exact .inr ⟨p, hp, link, wider⟩
  | @block depth x roots inside order inner lines isBlock nested written ihNested ih =>
    rcases List.mem_cons.1 he with rfl | he
    · exact .inl List.mem_cons_self
    rcases List.mem_append.1 he with he | he
    · rcases ihNested (fun _ => mem_of_mem_nestedIn) he with root | ⟨p, hp, link, inside⟩
      · -- what is nested in `x` stands right in the block that is opened here
        obtain ⟨front, back, split, balanced⟩ := nested.line_of_root root
        have behind := (split ▸ nested.isBalanced).of_append balanced
        refine .inr ⟨x, members x List.mem_cons_self, (mem_nestedIn_some.1 root).2, depth, [], front, back, lines, ?_,
          balanced, behind⟩
        rw [declaringLine, isBlock, split]
        simp
      · have wider := inside.append [indented step depth (declaringLine es names x)]
          (indented step depth ['}'] :: lines)
        exact .inr ⟨p, hp, link, wider⟩
    · rcases ih (fun r hr => members r (List.mem_cons_of_mem _ hr)) he with root | ⟨p, hp, link, inside⟩
      · exact .inl (List.mem_cons_of_mem _ root)
      · have wider := inside.append
          (indented step depth (declaringLine es names x) :: (inner ++ [indented step depth ['}']])) []
        rw [List.append_nil, List.cons_append, List.append_assoc] at wider
        exact .inr ⟨p, hp, link, wider⟩

end WrittenAs

/-! ## The model -/

variable {ws : Workspace}

/-- What stands behind the declarations in the model block. -/
def connectionOutlines (ws : Workspace) (names : Allocation) : List Outline :=
  (if ws.elements.isEmpty then [] else [.gap]) ++ ws.relationships.filterMap (relationshipLine? ws names)

/-- The lines of the model block at a depth. -/
def modelLines (ws : Workspace) (step : List Char) (depth : Nat) : List (List Char) :=
  (modelOutline ws (Allocation.ofElements ws.elements)).lines step depth

theorem modelLines_eq (ws : Workspace) (step : List Char) (depth : Nat) :
    modelLines ws step depth = indented step depth (opening "model".toList) ::
      (linesOf step (depth + 1) (treeOutlines (Allocation.ofElements ws.elements) ws.forest) ++
        linesOf step (depth + 1) (connectionOutlines ws (Allocation.ofElements ws.elements)) ++
          [indented step depth ['}']]) := by
  rw [modelLines, modelOutline, Outline.lines, List.append_assoc, linesOf_append]
  rfl

theorem isBalanced_linesOf {os : List Outline} (h : ∀ o ∈ os, IsBalanced (o.lines step depth)) :
    IsBalanced (linesOf step depth os) := by
  induction os with
  | nil => exact .nil
  | cons o os ih => exact (h o List.mem_cons_self).append (ih fun p hp => h p (List.mem_cons_of_mem _ hp))

theorem isBalanced_connections (ws : Workspace) (names : Allocation) (depth : Nat) :
    IsBalanced (linesOf step depth (connectionOutlines ws names)) := by
  refine isBalanced_linesOf fun o ho => ?_
  rcases List.mem_append.1 ho with gap | line
  · split at gap
    · cases gap
    · rw [List.mem_singleton.1 gap]
      exact .plain (by simp) (by simp)
  · obtain ⟨r, _, written⟩ := List.mem_filterMap.1 line
    obtain ⟨i, j, _, _, rfl⟩ := eq_of_relationshipLine? written
    exact .quoteEnds (getLast?_indented (getLast?_connectionLine i j r) depth)

/-- What is asked of the declarations of a model, written at a depth with contents a step further in. -/
structure DeclaresOnce (ws : Workspace) (step : List Char) (depth : Nat) : Prop where
  /-- The recursion over the elements ends. -/
  ends : ∃ met, Visits ws.elements [] (nestedIn ws.elements none) ws.forest met
  either : ∀ e ∈ ws.elements, LeadsOut ws.elements e.id ∨ LeadsIntoCycle ws.elements e.id
  once : ∀ e ∈ ws.elements, LeadsOut ws.elements e.id → ws.rooted.count e = 1
  never : ∀ e ∈ ws.elements, LeadsIntoCycle ws.elements e.id → e ∉ ws.rooted
  /-- The roots are declared in order, each with what is nested in it. -/
  written : ∃ declarations,
    WrittenAs ws.elements (Allocation.ofElements ws.elements) step (depth + 1) (nestedIn ws.elements none) declarations
      ws.rooted ∧
    modelLines ws step depth = indented step depth (opening "model".toList) :: (declarations ++
      linesOf step (depth + 1) (connectionOutlines ws (Allocation.ofElements ws.elements)) ++ [indented step depth ['}']])
  /-- An element whose parent exists is declared in the block of its parent. -/
  inside : ∀ e ∈ ws.rooted, ∀ p ∈ ws.elements, e.parentId = some p.id →
    InBlockOf ws.elements (Allocation.ofElements ws.elements) step p e (modelLines ws step depth)
  balanced : IsBalanced (modelLines ws step depth)

/-- Whatever parents dangle or go around in a cycle, the elements that lead out are declared once, each in the block
of its parent, and blocks are closed just where they were opened. -/
theorem declaresOnce {ws : Workspace} (ids : ws.elementIds.Nodup) (step : List Char) (depth : Nat) :
    DeclaresOnce ws step depth := by
  have written := writtenAs_trees (Allocation.ofElements ws.elements) step (Workspace.grown_rooted ids) (depth + 1)
  refine ⟨visits_forest ws, fun e he => ?_, fun e he out => ?_, fun e he cycle known => ?_,
    ⟨_, written, modelLines_eq ws step depth⟩, fun e he p hp link => ?_, ?_⟩
  · rw [leadsOut_iff_not ids he]
    exact (Classical.em _).symm
  · exact List.count_eq_one_of_mem (Workspace.nodup_rooted ids) ((Workspace.mem_rooted_iff ids).2 ⟨he, out⟩)
  · exact not_leadsIntoCycle ids ((Workspace.mem_rooted_iff ids).1 known).2 cycle
  · rcases written.inBlock (fun _ => mem_of_mem_nestedIn) he with root | ⟨q, hq, link', inside⟩
    · exact absurd (List.mem_map_of_mem hp) ((mem_nestedIn_none.1 root).2 p.id link)
    · have same : q = p := List.inj_on_of_nodup_map ids hq hp (Option.some.inj (link'.symm.trans link))
      rw [modelLines_eq, List.append_assoc, ← same]
      exact inside.append [indented step depth (opening "model".toList)] _
  · rw [modelLines_eq]
    exact isBalanced_opening step depth "model".toList (written.isBalanced.append (isBalanced_connections ws _ (depth + 1)))

/-- A desk in an office, a clerk of a branch that is no element, and a group that is inside itself by another one,
with a page below it. -/
def archive : Workspace :=
  { name := "Archive"
    description := ""
    elements :=
      [{ id := "desk", kind := .container, name := "Desk", parentId := some "office" },
        { id := "folder", kind := .group, name := "Folder", parentId := some "box" },
        { id := "box", kind := .group, name := "Box", parentId := some "folder" },
        { id := "page", kind := .component, name := "Page", parentId := some "box" },
        { id := "clerk", kind := .person, name := "Clerk", parentId := some "branch" },
        { id := "office", kind := .softwareSystem, name := "Office" }] }

theorem declaresOnce_archive :
    archive.elementIds.Nodup ∧ archive.rooted.map (·.id) = ["clerk", "office", "desk"] ∧
      LeadsIntoCycle archive.elements "page" ∧ DeclaresOnce archive usualStep 1 := by
  have ids : archive.elementIds.Nodup := by decide
  have page : IsInside archive.elements "page" "box" := ⟨archive.elements[3], by decide, rfl, rfl⟩
  have box : IsInside archive.elements "box" "folder" := ⟨archive.elements[2], by decide, rfl, rfl⟩
  have folder : IsInside archive.elements "folder" "box" := ⟨archive.elements[1], by decide, rfl, rfl⟩
  exact ⟨ids, by decide, ⟨"box", .single page, .tail (.single box) folder⟩, declaresOnce ids usualStep 1⟩

end Dsl

end Blueprint
