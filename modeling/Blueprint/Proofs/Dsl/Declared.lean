/-
  Blueprint.Proofs.Dsl.Declared — what a builder has taken in, whatever it was fed.

  Ids are drawn once for each element and view. The parent of an element comes from an open block, and
  only elements and groups that were declared before open one, so parents stand earlier in the list.
  A name stands for an element that was declared, and never for a group. A view that needs an anchor
  has one.

  Proved: a clause that was read declares no group as an element and leaves no view without an anchor
  but a landscape (`proper_classify`); a builder is sound after any statements (`sound_feedAll`).
-/

import Blueprint.Dsl.Builder
import Blueprint.Proofs.Model.Integrity
import Blueprint.Proofs.Identifier.Source

namespace Blueprint.Dsl

open Text

/-! ## Clauses that are read -/

/-- Elements are declared by a keyword of their own, and every view but a landscape has an anchor. -/
def Clause.Proper : Clause → Prop
  | .element _ kind _ _ => kind ≠ .group
  | .view kind anchor _ => anchor = none → kind = .systemLandscape
  | _ => True

theorem eq_of_element? {cs : List Char} {c : Clause} (h : element? cs = some c) :
    ∃ identifier kind name rest, c = .element identifier kind name rest ∧ kind ≠ .group := by
  simp only [element?] at h
  obtain ⟨kind, hk, h⟩ := List.exists_of_findSome?_eq_some h
  simp only [Option.bind_eq_bind, Option.bind_eq_some_iff, Option.pure_def, Option.some.injEq] at h
  obtain ⟨_, _, _, _, ⟨name, _⟩, _, rest, _, rfl⟩ := h
  refine ⟨_, _, _, _, rfl, ?_⟩
  rintro rfl
  exact absurd hk (by decide)

theorem eq_of_group? {cs : List Char} {c : Clause} (h : group? cs = some c) : ∃ name, c = .group name := by
  simp only [group?, Option.bind_eq_bind, Option.bind_eq_some_iff, Option.pure_def, Option.some.injEq] at h
  obtain ⟨_, _, _, _, ⟨name, _⟩, _, rfl⟩ := h
  exact ⟨_, rfl⟩

theorem eq_of_relationship? {cs : List Char} {c : Clause} (h : relationship? cs = some c) :
    ∃ source target rest, c = .relationship source target rest := by
  simp only [relationship?, Option.bind_eq_bind, Option.bind_eq_some_iff, Option.pure_def, Option.some.injEq] at h
  obtain ⟨_, _, ⟨target, _⟩, _, _, _, rfl⟩ := h
  exact ⟨_, _, _, rfl⟩

theorem eq_of_view? {cs : List Char} {c : Clause} (h : view? cs = some c) :
    ∃ kind anchor rest, c = .view kind anchor rest ∧ (anchor = none → kind = .systemLandscape) := by
  simp only [view?] at h
  split at h
  · cases h
    exact ⟨_, _, _, rfl, fun _ => rfl⟩
  · obtain ⟨kind, _, h⟩ := List.exists_of_findSome?_eq_some h
    simp only [Option.bind_eq_bind, Option.bind_eq_some_iff, Option.pure_def, Option.some.injEq] at h
    obtain ⟨_, _, _, _, ⟨anchor, _⟩, _, rest, _, rfl⟩ := h
    exact ⟨_, _, _, rfl, fun none => by cases none⟩

theorem eq_of_elementPosition? {cs : List Char} {c : Clause} (h : elementPosition? cs = some c) :
    ∃ identifier x y, c = .elementPosition identifier x y := by
  simp only [elementPosition?, Option.bind_eq_bind, Option.bind_eq_some_iff, Option.pure_def, Option.some.injEq] at h
  obtain ⟨_, _, _, _, ⟨i, _⟩, _, _, _, ⟨x, _⟩, _, _, _, ⟨y, _⟩, _, rfl⟩ := h
  exact ⟨i, x, y, rfl⟩

theorem eq_of_viewElement? {cs : List Char} {c : Clause} (h : viewElement? cs = some c) :
    ∃ identifier, c = .viewElement identifier := by
  simp only [viewElement?, Option.bind_eq_bind, Option.bind_eq_some_iff, Option.pure_def] at h
  obtain ⟨_, _, _, _, ⟨i, _⟩, _, h⟩ := h
  split at h
  · cases h
    exact ⟨i, rfl⟩
  · cases h

theorem eq_of_position? {cs : List Char} {c : Clause} (h : position? cs = some c) : ∃ x y, c = .position x y := by
  simp only [position?, Option.bind_eq_bind, Option.bind_eq_some_iff, Option.pure_def, Option.some.injEq] at h
  obtain ⟨_, _, _, _, ⟨x, _⟩, _, _, _, ⟨y, _⟩, _, rfl⟩ := h
  exact ⟨x, y, rfl⟩

theorem eq_of_viewTitle? {cs : List Char} {c : Clause} (h : viewTitle? cs = some c) :
    ∃ title, c = .viewTitle title := by
  simp only [viewTitle?, Option.bind_eq_bind, Option.bind_eq_some_iff, Option.pure_def, Option.some.injEq] at h
  obtain ⟨_, _, _, _, ⟨title, _⟩, _, rfl⟩ := h
  exact ⟨title, rfl⟩

/-- The forms that a statement among the views can have. -/
theorem viewClause_cases (s : Statement) :
    (∃ identifier x y, viewClause s = .elementPosition identifier x y ∧ elementPosition? s.text ≠ none) ∨
      (∃ identifier, viewClause s = .viewElement identifier ∧ viewElement? s.text ≠ none) ∨
      (∃ x y, viewClause s = .position x y ∧ position? s.text ≠ none) ∨
      (∃ title, viewClause s = .viewTitle title ∧ viewTitle? s.text ≠ none) ∨
      (∃ kind anchor rest, viewClause s = .view kind anchor rest ∧ (anchor = none → kind = .systemLandscape)) ∨
      viewClause s = .unknown := by
  unfold viewClause
  cases h1 : elementPosition? s.text with
  | some c => obtain ⟨i, x, y, rfl⟩ := eq_of_elementPosition? h1; exact .inl ⟨i, x, y, rfl, by simp⟩
  | none =>
    cases h2 : viewElement? s.text with
    | some c => obtain ⟨i, rfl⟩ := eq_of_viewElement? h2; exact .inr (.inl ⟨i, rfl, by simp⟩)
    | none =>
      cases h3 : position? s.text with
      | some c => obtain ⟨x, y, rfl⟩ := eq_of_position? h3; exact .inr (.inr (.inl ⟨x, y, rfl, by simp⟩))
      | none =>
        cases h4 : viewTitle? s.text with
        | some c => obtain ⟨t, rfl⟩ := eq_of_viewTitle? h4; exact .inr (.inr (.inr (.inl ⟨t, rfl, by simp⟩)))
        | none =>
          cases h5 : view? s.body with
          | some c =>
            obtain ⟨k, a, r, rfl, anchored⟩ := eq_of_view? h5
            exact .inr (.inr (.inr (.inr (.inl ⟨k, a, r, rfl, anchored⟩))))
          | none => exact .inr (.inr (.inr (.inr (.inr rfl))))

theorem proper_viewClause (s : Statement) : (viewClause s).Proper := by
  rcases viewClause_cases s with ⟨_, _, _, e, _⟩ | ⟨_, e, _⟩ | ⟨_, _, e, _⟩ | ⟨_, e, _⟩ | ⟨_, _, _, e, anchored⟩ | e
  · rw [e]; trivial
  · rw [e]; trivial
  · rw [e]; trivial
  · rw [e]; trivial
  · rw [e]; exact anchored
  · rw [e]; trivial

/-- The forms that a statement outside the views can have. -/
theorem modelClause_cases (s : Statement) :
    (∃ identifier kind name rest, modelClause s = .element identifier kind name rest ∧ kind ≠ .group) ∨
      (∃ name, modelClause s = .group name) ∨
      (∃ source target rest, modelClause s = .relationship source target rest) ∨ modelClause s = .unknown := by
  unfold modelClause
  split
  · exact .inr (.inr (.inr rfl))
  · cases h1 : element? s.body with
    | some c => obtain ⟨i, k, n, r, rfl, hk⟩ := eq_of_element? h1; exact .inl ⟨i, k, n, r, rfl, hk⟩
    | none =>
      cases h2 : group? s.body with
      | some c => obtain ⟨n, rfl⟩ := eq_of_group? h2; exact .inr (.inl ⟨n, rfl⟩)
      | none =>
        cases h3 : relationship? s.body with
        | some c => obtain ⟨a, b, r, rfl⟩ := eq_of_relationship? h3; exact .inr (.inr (.inl ⟨a, b, r, rfl⟩))
        | none => exact .inr (.inr (.inr rfl))

theorem proper_modelClause (s : Statement) : (modelClause s).Proper := by
  rcases modelClause_cases s with ⟨_, _, _, _, e, notGroup⟩ | ⟨_, e⟩ | ⟨_, _, _, e⟩ | e
  · rw [e]; exact notGroup
  · rw [e]; trivial
  · rw [e]; trivial
  · rw [e]; trivial

theorem proper_classify (s : Statement) (inViews : Bool) : (classify s inViews).Proper := by
  unfold classify
  repeat' split
  all_goals first | trivial | exact proper_viewClause s | exact proper_modelClause s

/-! ## Builders -/

/-- The id of the element or group that a block belongs to. -/
def Frame.id? : Frame → Option String
  | .element _ id => some id
  | .group id => some id
  | _ => none

/-- A view as it is taken in: not tied to an element yet, and without an anchor only if it is a landscape. -/
structure PendingView.Sound (v : PendingView) : Prop where
  root : v.view.id = landscapeId → v.view.kind = .systemLandscape
  anchor : v.anchor = none → v.view.kind = .systemLandscape
  systemId : v.view.softwareSystemId = none
  containerId : v.view.containerId = none

namespace Builder

structure Sound (ids : IdSource) (b : Builder) : Prop where
  elementDrawn : ∀ e ∈ b.elements, ids.Drawn b.drawn e.id
  elementIds : (b.elements.map (·.id)).Nodup
  parents : ∀ before e after, b.elements = before ++ e :: after →
    ∀ parent, e.parentId = some parent → parent ∈ before.map (·.id)
  blocks : ∀ f ∈ b.stack, ∀ id, f.id? = some id → id ∈ b.elements.map (·.id)
  names : ∀ name id, b.table.resolve name = some id → ∃ e ∈ b.elements, e.id = id ∧ e.kind ≠ .group
  viewDrawn : ∀ v ∈ b.views, v.view.id = landscapeId ∨ ids.Drawn b.drawn v.view.id
  viewIds : (b.views.map (·.view.id)).Nodup
  views : ∀ v ∈ b.views, v.Sound

variable {ids : IdSource} {b : Builder}

theorem mem_parentId {parent : String} (h : b.parentId = some parent) :
    ∃ f ∈ b.stack, f.id? = some parent := by
  unfold parentId at h
  split at h
  · next hs => cases h; exact ⟨_, by rw [hs]; exact List.mem_cons_self, rfl⟩
  · next hs => cases h; exact ⟨_, by rw [hs]; exact List.mem_cons_self, rfl⟩
  · cases h

/-! ## What one statement does -/

/-- Nothing is declared; blocks may be closed, or opened that belong to no element. -/
theorem Sound.of_same {c : Builder} (h : Sound ids b) (elements : c.elements = b.elements)
    (table : c.table = b.table) (views : c.views = b.views) (drawn : c.drawn = b.drawn)
    (stack : ∀ f ∈ c.stack, f ∈ b.stack ∨ f.id? = none) : Sound ids c := by
  refine ⟨?_, ?_, ?_, ?_, ?_, ?_, ?_, ?_⟩
  · rw [elements, drawn]; exact h.elementDrawn
  · rw [elements]; exact h.elementIds
  · rw [elements]; exact h.parents
  · intro f hf id hid
    rw [elements]
    rcases stack f hf with old | none
    · exact h.blocks f old id hid
    · rw [none] at hid; cases hid
  · rw [elements, table]; exact h.names
  · rw [views, drawn]; exact h.viewDrawn
  · rw [views]; exact h.viewIds
  · rw [views]; exact h.views

theorem Sound.pushIf (h : Sound ids b) (opens : Bool) {f : Frame} (hf : f.id? = none) :
    Sound ids (b.pushIf opens f) := by
  unfold Builder.pushIf push
  split
  · refine h.of_same rfl rfl rfl rfl fun g hg => ?_
    rcases List.mem_cons.1 hg with rfl | hg
    · exact .inr hf
    · exact .inl hg
  · exact h

theorem Sound.push (h : Sound ids b) {f : Frame} (hf : f.id? = none) : Sound ids (b.push f) := h.pushIf true hf

theorem Sound.close (h : Sound ids b) : Sound ids { b with stack := b.stack.tail } :=
  h.of_same rfl rfl rfl rfl fun _ hf => .inl (List.mem_of_mem_tail hf)

/-- What stands in a list with one more member is that member, or stood there before. -/
theorem split_concat {α : Type} {xs before after : List α} {x y : α} (h : xs ++ [x] = before ++ y :: after) :
    (xs = before ∧ x = y) ∨ ∃ mid, xs = before ++ y :: mid := by
  rcases List.eq_nil_or_concat after with rfl | ⟨mid, z, rfl⟩
  · obtain ⟨same, last⟩ := List.append_inj' h rfl
    exact .inl ⟨same, List.singleton_inj.1 last⟩
  · rw [List.concat_eq_append, ← List.cons_append, ← List.append_assoc] at h
    exact .inr ⟨mid, (List.append_inj' h rfl).1⟩

/-- The next id is none of those that elements have. -/
theorem Sound.next_not_mem (hids : ids.Fresh) (h : Sound ids b) : ids b.drawn ∉ b.elements.map (·.id) := by
  intro old
  obtain ⟨f, hf, hid⟩ := List.mem_map.1 old
  have spent := hids.spent_of_drawn (h.elementDrawn f hf)
  rw [hid] at spent
  exact ids.not_spent _ spent

/-- An element or a group is declared inside the innermost block, and may open a block of its own. -/
theorem Sound.declare (hids : ids.Fresh) (h : Sound ids b) {e : PendingElement} {table : IdentifierTable} {frame : Frame}
    (opens : Bool) (id : e.id = ids b.drawn) (parent : e.parentId = b.parentId) (hframe : frame.id? = some e.id)
    (names : ∀ name id, table.resolve name = some id → b.table.resolve name = some id ∨ (id = e.id ∧ e.kind ≠ .group)) :
    Sound ids { b with
      table, elements := b.elements ++ [e], drawn := b.drawn + 1
      stack := if opens then frame :: b.stack else b.stack } := by
  have le : b.drawn ≤ b.drawn + 1 := Nat.le_succ _
  refine ⟨?_, ?_, ?_, ?_, ?_, ?_, h.viewIds, h.views⟩
  · intro f hf
    rcases List.mem_append.1 hf with hf | hf
    · exact (h.elementDrawn f hf).mono le
    · rw [List.mem_singleton.1 hf, id]
      exact ids.drawn_succ _
  · rw [List.map_append, List.map_singleton, id, ← List.concat_eq_append]
    exact h.elementIds.concat (h.next_not_mem hids)
  · intro before f after split p hp
    rcases split_concat split with ⟨rfl, rfl⟩ | ⟨mid, old⟩
    · rw [parent] at hp
      obtain ⟨g, hg, hid⟩ := mem_parentId hp
      exact h.blocks g hg p hid
    · exact h.parents before f mid old p hp
  · intro f hf i hi
    have old : ∀ g ∈ b.stack, g.id? = some i → i ∈ (b.elements ++ [e]).map (·.id) := fun g hg hgi => by
      rw [List.map_append]
      exact List.mem_append_left _ (h.blocks g hg i hgi)
    cases opens with
    | false => exact old f hf hi
    | true =>
      rcases List.mem_cons.1 hf with rfl | hf
      · rw [hframe] at hi
        cases hi
        simp
      · exact old f hf hi
  · intro name i hi
    rcases names name i hi with old | ⟨rfl, hk⟩
    · obtain ⟨f, hf, hid⟩ := h.names name i old
      exact ⟨f, List.mem_append_left _ hf, hid⟩
    · exact ⟨e, List.mem_append_right _ (List.mem_singleton.2 rfl), rfl, hk⟩
  · exact fun v hv => (h.viewDrawn v hv).imp_right fun hd => hd.mono le

theorem resolve_of_register {table : IdentifierTable} {bare qualified id name found : String}
    (h : (table.register bare qualified id).resolve name = some found) :
    table.resolve name = some found ∨ found = id := by
  rw [IdentifierTable.resolve_register] at h
  split at h
  · exact .inr (Option.some.inj h).symm
  · exact .inl h

theorem Sound.onElement (hids : ids.Fresh) (h : Sound ids b) (opens : Bool) (identifier : Option (List Char))
    {kind : ElementKind} (hk : kind ≠ .group) (name rest : List Char) :
    Sound ids (b.onElement ids opens identifier kind name rest) := by
  refine h.declare hids opens rfl rfl rfl fun n i hi => ?_
  exact (resolve_of_register hi).imp_right fun same => ⟨same, hk⟩

theorem Sound.onGroup (hids : ids.Fresh) (h : Sound ids b) (opens : Bool) (name : List Char) :
    Sound ids (b.onGroup ids opens name) :=
  h.declare hids opens rfl rfl rfl fun _ _ hi => .inl hi

/-- The id of a new view. The root view's id goes to a landscape only, and only if no view has it. -/
def newViewId (ids : IdSource) (b : Builder) (kind : ViewKind) : String :=
  if (kind == .systemLandscape && !b.views.any (·.view.id == landscapeId)) = true then landscapeId else ids b.drawn

theorem Sound.newViewId (hids : ids.Fresh) (h : Sound ids b) (kind : ViewKind) :
    (b.newViewId ids kind = landscapeId ∨ ids.Drawn (b.drawn + 1) (b.newViewId ids kind)) ∧
      b.newViewId ids kind ∉ b.views.map (·.view.id) ∧
      (b.newViewId ids kind = landscapeId → kind = .systemLandscape) := by
  unfold Builder.newViewId
  split
  · next root =>
    simp only [Bool.and_eq_true, beq_iff_eq, Bool.not_eq_true', List.any_eq_false] at root
    refine ⟨.inl rfl, fun old => ?_, fun _ => root.1⟩
    obtain ⟨v, hv, hid⟩ := List.mem_map.1 old
    exact root.2 v hv hid
  · refine ⟨.inr (ids.drawn_succ _), fun old => ?_, fun e => absurd e (hids.notLandscape _)⟩
    obtain ⟨v, hv, hid⟩ := List.mem_map.1 old
    rcases h.viewDrawn v hv with root | drawn
    · exact hids.notLandscape _ (hid.symm.trans root)
    · have spent := hids.spent_of_drawn drawn
      rw [hid] at spent
      exact ids.not_spent _ spent

theorem Sound.onView (hids : ids.Fresh) (h : Sound ids b) (opens : Bool) (line : Nat) {kind : ViewKind}
    {anchor : Option (List Char)} (proper : anchor = none → kind = .systemLandscape) (rest : List Char) :
    Sound ids (b.onView ids opens line kind anchor rest) := by
  have le : b.drawn ≤ b.drawn + 1 := Nat.le_succ _
  have stack : ∀ f ∈ (b.onView ids opens line kind anchor rest).stack, f ∈ b.stack ∨ f.id? = none := by
    intro f hf
    cases opens with
    | false => exact .inl hf
    | true =>
      rcases List.mem_cons.1 hf with rfl | hf
      · exact .inr rfl
      · exact .inl hf
  obtain ⟨drawn, distinct, root⟩ := h.newViewId hids kind
  refine ⟨fun e he => (h.elementDrawn e he).mono le, h.elementIds, h.parents, ?_, h.names, ?_, ?_, ?_⟩
  · intro f hf id hid
    rcases stack f hf with old | none
    · exact h.blocks f old id hid
    · rw [none] at hid; cases hid
  · intro v hv
    rcases List.mem_append.1 hv with hv | hv
    · exact (h.viewDrawn v hv).imp_right fun hd => hd.mono le
    · rw [List.mem_singleton.1 hv]
      exact drawn
  · simp only [Builder.onView, List.map_append, List.map_singleton]
    rw [← List.concat_eq_append]
    exact h.viewIds.concat distinct
  · intro v hv
    rcases List.mem_append.1 hv with hv | hv
    · exact h.views v hv
    · rw [List.mem_singleton.1 hv]
      exact ⟨root, fun none => proper (by simpa using none), rfl, rfl⟩

/-- A title takes the place of the last view's name, and no view changes otherwise. -/
theorem mem_renameLast {name : String} {views : List PendingView} {v : PendingView} (h : v ∈ renameLast name views) :
    ∃ w ∈ views, v = w ∨ v = { w with view := { w.view with name } } := by
  fun_induction renameLast name views with
  | case1 => cases h
  | case2 w => exact ⟨w, by simp, .inr (List.mem_singleton.1 h)⟩
  | case3 w ws _ ih =>
    rcases List.mem_cons.1 h with rfl | h
    · exact ⟨v, by simp, .inl rfl⟩
    · obtain ⟨u, hu, e⟩ := ih h
      exact ⟨u, List.mem_cons_of_mem _ hu, e⟩

/-- Whatever does not look at the names of views is the same of all of them. -/
theorem map_renameLast {α : Type} {part : PendingView → α}
    (nameless : ∀ (v : PendingView) name, part { v with view := { v.view with name } } = part v) (name : String)
    (views : List PendingView) : (renameLast name views).map part = views.map part := by
  fun_induction renameLast name views with
  | case1 => rfl
  | case2 w => rw [List.map_singleton, List.map_singleton, nameless]
  | case3 w ws _ ih => rw [List.map_cons, List.map_cons, ih]

theorem Sound.onViewTitle (h : Sound ids b) (title : List Char) : Sound ids (b.onViewTitle title) := by
  unfold Builder.onViewTitle
  split
  · refine ⟨h.elementDrawn, h.elementIds, h.parents, h.blocks, h.names, ?_, ?_, ?_⟩
    · intro v hv
      obtain ⟨w, hw, rfl | rfl⟩ := mem_renameLast hv
      · exact h.viewDrawn _ hw
      · exact h.viewDrawn w hw
    · rw [map_renameLast fun _ _ => rfl]
      exact h.viewIds
    · intro v hv
      obtain ⟨w, hw, rfl | rfl⟩ := mem_renameLast hv
      · exact h.views _ hw
      · obtain ⟨root, anchor, systemId, containerId⟩ := h.views w hw
        exact ⟨root, anchor, systemId, containerId⟩
  · exact h

/-! ## Any statements -/

theorem Sound.handle (hids : ids.Fresh) (h : Sound ids b) (s : Statement) {c : Clause} (proper : c.Proper) :
    Sound ids (b.handle ids s c) := by
  have same : ∀ {c : Builder}, c.elements = b.elements → c.table = b.table → c.views = b.views → c.drawn = b.drawn →
      c.stack = b.stack → Sound ids c := fun elements table views drawn stack =>
    h.of_same elements table views drawn fun f hf => .inl (stack ▸ hf)
  cases c with
  | close => exact h.close
  | workspace rest =>
    refine Sound.pushIf ?_ s.opens rfl
    split
    · exact h
    · exact same rfl rfl rfl rfl rfl
  | model => exact h.push rfl
  | views => exact h.push rfl
  | styles => exact h.push rfl
  | element identifier kind name rest => exact h.onElement hids s.opens identifier proper name rest
  | group name => exact h.onGroup hids s.opens name
  | relationship source target rest =>
    simp only [Builder.handle, onRelationship]
    split <;> exact same rfl rfl rfl rfl rfl
  | view kind anchor rest => exact h.onView hids s.opens s.line proper rest
  | viewElement identifier => exact h.push rfl
  | elementPosition identifier x y => exact same rfl rfl rfl rfl rfl
  | position x y =>
    simp only [Builder.handle, onPosition]
    split
    · exact same rfl rfl rfl rfl rfl
    · exact h
  | viewTitle title => exact h.onViewTitle title
  | unknown => exact h.pushIf s.opens rfl

theorem Sound.feed (hids : ids.Fresh) (h : Sound ids b) (s : Statement) : Sound ids (b.feed ids s) := by
  unfold Builder.feed
  split
  · exact h.close
  split
  · exact h.pushIf s.opens rfl
  · exact h.handle hids s (proper_classify s b.inViews)

theorem sound_empty (ids : IdSource) (drawn : Nat) : Sound ids { drawn } := by
  refine ⟨by simp, by simp, fun before e after split => ?_, by simp, fun name id h => ?_, by simp, by simp, by simp⟩
  · simp at split
  · cases h

theorem sound_feedAll (hids : ids.Fresh) (drawn : Nat) (statements : List Statement) :
    Sound ids (feedAll ids { drawn } statements) := by
  have step : ∀ (b : Builder), Sound ids b → Sound ids (feedAll ids b statements) := by
    induction statements with
    | nil => exact fun b h => h
    | cons s statements ih => exact fun b h => ih (b.feed ids s) (h.feed hids s)
  exact step _ (sound_empty ids drawn)

/-- Ids are drawn forward. -/
theorem drawn_le_feed (ids : IdSource) (b : Builder) (s : Statement) : b.drawn ≤ (b.feed ids s).drawn := by
  have pushed : ∀ (c : Builder) opens frame, (c.pushIf opens frame).drawn = c.drawn := by
    intro c opens frame
    unfold pushIf
    split <;> rfl
  unfold feed
  split
  · exact Nat.le_refl _
  split
  · exact Nat.le_of_eq (pushed b s.opens .block).symm
  · cases classify s b.inViews with
    | element identifier kind name rest => exact Nat.le_succ _
    | group name => exact Nat.le_succ _
    | view kind anchor rest => exact Nat.le_succ _
    | workspace rest =>
      simp only [handle, onWorkspace, pushed]
      split <;> exact Nat.le_refl _
    | relationship source target rest =>
      simp only [handle, onRelationship]
      split <;> exact Nat.le_refl _
    | position x y =>
      simp only [handle, onPosition]
      split <;> exact Nat.le_refl _
    | viewTitle title =>
      simp only [handle, onViewTitle]
      split <;> exact Nat.le_refl _
    | unknown => simp only [handle, pushed, Nat.le_refl]
    | _ => exact Nat.le_refl _

theorem drawn_le_feedAll (ids : IdSource) (b : Builder) (statements : List Statement) :
    b.drawn ≤ (feedAll ids b statements).drawn := by
  induction statements generalizing b with
  | nil => exact Nat.le_refl _
  | cons s statements ih => exact Nat.le_trans (drawn_le_feed ids b s) (ih _)

end Builder

end Blueprint.Dsl
