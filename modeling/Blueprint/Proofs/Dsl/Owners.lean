/-
  Blueprint.Proofs.Dsl.Owners — relationships that refer to the element around them (`_on_relationship` and then
  `_resolve_relationships`).

  Inside the block of an element a relationship may leave its source out, or write `this` for an end; either
  way the nearest enclosing element is meant. What is kept of that element until all statements were taken in
  is its qualified identifier and not its id, and a declaration behind the element that can be referred to
  by the same identifier, as an element of that bare name anywhere in the document can, takes it over.

  Proved: the relationships that are kept are tied to the elements around them iff no such element has lost
  its identifier to a later declaration (`tiesOwners_iff`).
-/

import Blueprint.Proofs.Dsl.Account
import Blueprint.Proofs.Dsl.Frames
import Blueprint.Proofs.Related

namespace Blueprint.Dsl

open Text

/-! ## The enclosing element -/

namespace Builder

/-- The nearest enclosing element, by its qualified identifier and its id. -/
def enclosing? (b : Builder) : Option (String × String) :=
  b.stack.findSome? fun
    | .element qualified id => some (qualified, id)
    | _ => none

theorem owner?_eq (b : Builder) : b.owner? = b.enclosing?.map (·.1) := by
  unfold owner? enclosing?
  induction b.stack with
  | nil => rfl
  | cons f fs ih => cases f <;> simp [ih]

theorem mem_stack_of_enclosing? {b : Builder} {name id : String} (h : b.enclosing? = some (name, id)) :
    .element name id ∈ b.stack := by
  obtain ⟨f, mem, here⟩ := List.exists_of_findSome?_eq_some h
  cases f <;> cases here
  exact mem

end Builder

namespace Told

variable {ids : IdSource} {t u : Told} {name id : String}

/-- The source is the enclosing element: it is left out, or written as such. -/
def isFromOwner (t : Told) : Bool :=
  match t.clause with
  | .relationship source _ _ => source.all (· == selfReference)
  | _ => false

def isToOwner (t : Told) : Bool :=
  match t.clause with
  | .relationship _ target _ => target == selfReference
  | _ => false

def refersToOwner (t : Told) : Bool := t.isFromOwner || t.isToOwner

/-- Where the statement refers to the element around it, the relationship is tied to that element. -/
structure TiesOwner (t : Told) (r : Relationship) : Prop where
  source : t.isFromOwner = true → ∀ owner ∈ t.around.enclosing?, r.sourceId = owner.2
  target : t.isToOwner = true → ∀ owner ∈ t.around.enclosing?, r.targetId = owner.2

instance (t : Told) (r : Relationship) : Decidable (t.TiesOwner r) :=
  decidable_of_iff ((t.isFromOwner = true → ∀ owner ∈ t.around.enclosing?, r.sourceId = owner.2) ∧
      (t.isToOwner = true → ∀ owner ∈ t.around.enclosing?, r.targetId = owner.2))
    ⟨fun h => ⟨h.1, h.2⟩, fun h => ⟨h.source, h.target⟩⟩

/-- An element is declared with this qualified identifier and this id. -/
def Declares (ids : IdSource) (name id : String) (u : Told) : Prop :=
  (∃ bare, u.names? ids = some (bare, name)) ∧ u.newId ids = id

theorem Declares.isCalled (h : u.Declares ids name id) : u.isCalled ids name = true := by
  obtain ⟨⟨bare, names⟩, _⟩ := h
  simp [Told.isCalled, names]

theorem refersToOwner_of_notRelationship (h : t.isRelationship = false) : t.refersToOwner = false := by
  unfold isRelationship at h
  unfold refersToOwner isFromOwner isToOwner
  cases hc : t.clause <;> simp_all

/-- The reference that is kept for the enclosing element is its qualified identifier. -/
theorem source_of_isFromOwner {q : PendingRelationship} (h : t.relationship? = some q) (own : t.isFromOwner = true)
    (inside : t.around.enclosing? = some (name, id)) : q.source = name := by
  have owner : t.around.owner? = some name := by rw [t.around.owner?_eq, inside]; rfl
  unfold relationship? at h
  unfold isFromOwner at own
  split at h
  · next source _ _ hc =>
    rw [hc] at own
    obtain ⟨reference, kept, rfl⟩ := Option.map_eq_some_iff.1 h
    have same : t.around.sourceOf source = t.around.owner? := by
      cases source with
      | none => rfl
      | some cs => exact if_pos (by simpa using own)
    rw [same, owner] at kept
    exact (Option.some.inj kept).symm
  · cases h

theorem target_of_isToOwner {q : PendingRelationship} (h : t.relationship? = some q) (own : t.isToOwner = true)
    (inside : t.around.enclosing? = some (name, id)) : q.target = name := by
  have owner : t.around.owner? = some name := by rw [t.around.owner?_eq, inside]; rfl
  unfold relationship? at h
  unfold isToOwner at own
  split at h
  · next target _ hc =>
    rw [hc] at own
    obtain ⟨_, _, rfl⟩ := Option.map_eq_some_iff.1 h
    show t.around.targetOf target = name
    rw [Builder.targetOf, if_pos (by simpa using own), owner, Option.getD_some]
  · cases h

end Told

/-- The qualified identifier of an element goes to a declaration behind it. -/
def TakenOver (ids : IdSource) (ts : List Told) (name id : String) : Prop :=
  ∃ before u after, ts = before ++ u :: after ∧ u.Declares ids name id ∧ ∃ v ∈ after, v.isCalled ids name = true

/-- The relationships that are kept, in order, are tied to the elements around them where they refer to those. -/
def TiesOwners (ids : IdSource) (ts : List Told) (p : Parsed) : Prop :=
  List.Forall₂ Told.TiesOwner (ts.filter fun t => t.isRelationship && t.isKept ids (standsFor ids ts))
    p.workspace.relationships

instance (ids : IdSource) (ts : List Told) (p : Parsed) : Decidable (TiesOwners ids ts p) :=
  inferInstanceAs (Decidable (List.Forall₂ _ _ _))

variable {ids : IdSource} {b : Builder} {s : Statement} {ss : List Statement} {ts : List Told} {name id : String}

theorem feed_of_told (ids : IdSource) (told : ¬(s.isClose || b.isSkipping) = true) :
    b.feed ids s = b.handle ids s (Told.clause ⟨b, s⟩) := by
  rw [Bool.not_eq_true, Bool.or_eq_false_iff] at told
  exact Builder.feed_handled ids told.1 told.2

/-! ## Every enclosing element was declared -/

theorem declares_of_mem_handle {t : Told} {c : Clause} (hc : t.clause = c)
    (h : .element name id ∈ (t.around.handle ids t.statement c).stack) :
    .element name id ∈ t.around.stack ∨ t.Declares ids name id := by
  have pushed : ∀ (opens : Bool) {f : Frame},
      .element name id ∈ (if opens then f :: t.around.stack else t.around.stack) →
        .element name id ∈ t.around.stack ∨ .element name id = f := by
    intro opens f mem
    split at mem
    · exact (List.mem_cons.1 mem).symm
    · exact .inl mem
  cases c with
  | element identifier kind title rest =>
    refine (pushed _ h).imp_right fun new => ?_
    cases new
    exact ⟨⟨t.bareOf ids identifier, by rw [Told.names?, hc]; rfl⟩, rfl⟩
  | close => exact .inl (List.mem_of_mem_tail h)
  | model | views | styles | viewElement _ => exact (pushed true h).imp_right fun new => by cases new
  | group title => exact (pushed _ h).imp_right fun new => by cases new
  | view kind anchor rest => exact (pushed _ h).imp_right fun new => by cases new
  | workspace rest =>
    rw [Builder.handle, Builder.stack_onWorkspace] at h
    exact (pushed _ h).imp_right fun new => by cases new
  | unknown =>
    rw [Builder.handle, Builder.stack_pushIf] at h
    exact (pushed _ h).imp_right fun new => by cases new
  | relationship source target rest => exact .inl (Builder.stack_onRelationship .. ▸ h)
  | elementPosition identifier x y => exact .inl h
  | position x y => exact .inl (Builder.stack_onPosition .. ▸ h)
  | viewTitle title => exact .inl (Builder.stack_onViewTitle .. ▸ h)

/-- The element around a statement was declared among the statements, unless its block was open at first. -/
theorem declares_of_mem_stack {t : Told} (ht : t ∈ handled ids b ss) (h : .element name id ∈ t.around.stack) :
    .element name id ∈ b.stack ∨ ∃ u ∈ handled ids b ss, u.Declares ids name id := by
  induction ss generalizing b with
  | nil => cases ht
  | cons s ss ih =>
    rw [handled] at ht ⊢
    split at ht
    · next quiet =>
      rw [if_pos quiet]
      refine (ih ht).imp_left fun mem => ?_
      rw [Builder.feed] at mem
      split at mem
      · exact List.mem_of_mem_tail mem
      · next open_ =>
        rw [if_pos (by simpa [open_] using quiet), Builder.stack_pushIf] at mem
        split at mem
        · exact (List.mem_cons.1 mem).resolve_left (by simp)
        · exact mem
    · next told =>
      rw [if_neg told]
      rcases List.mem_cons.1 ht with rfl | ht
      · exact .inl h
      · rcases ih ht with mem | ⟨u, hu, declares⟩
        · rw [feed_of_told ids told] at mem
          exact (declares_of_mem_handle (t := ⟨b, s⟩) rfl mem).imp_right fun declares =>
            ⟨_, List.mem_cons_self, declares⟩
        · exact .inr ⟨u, List.mem_cons_of_mem _ hu, declares⟩

/-! ## Declarations draw different ids -/

theorem drawn_le_of_mem_handled {t : Told} (ht : t ∈ handled ids b ss) : b.drawn ≤ t.around.drawn := by
  induction ss generalizing b with
  | nil => cases ht
  | cons s ss ih =>
    have later : t ∈ handled ids (b.feed ids s) ss → b.drawn ≤ t.around.drawn := fun ht =>
      Nat.le_trans (Builder.drawn_le_feed ids b s) (ih ht)
    rw [handled] at ht
    split at ht
    · exact later ht
    · rcases List.mem_cons.1 ht with rfl | ht
      · exact Nat.le_refl _
      · exact later ht

theorem drawn_handle_of_names {t : Told} (h : (t.names? ids).isSome = true) :
    (t.around.handle ids t.statement t.clause).drawn = t.around.drawn + 1 := by
  unfold Told.names? at h
  cases hc : t.clause with
  | element identifier kind title rest => rfl
  | _ => rw [hc] at h; cases h

/-- An element draws its id before everything that stands behind it. -/
theorem pairwise_drawn (ids : IdSource) (b : Builder) (ss : List Statement) :
    (handled ids b ss).Pairwise fun u v => (u.names? ids).isSome = true → u.around.drawn < v.around.drawn := by
  induction ss generalizing b with
  | nil => exact .nil
  | cons s ss ih =>
    rw [handled]
    split
    · exact ih _
    · next told =>
      refine .cons (fun v hv names => ?_) (ih _)
      have drawn := drawn_le_of_mem_handled hv
      rw [feed_of_told ids told, drawn_handle_of_names (t := ⟨b, s⟩) names] at drawn
      exact drawn

/-! ## What an identifier comes to stand for -/

theorem standsFor_append (ids : IdSource) (ts us : List Told) (reference : String) :
    standsFor ids (ts ++ us) reference = (standsFor ids us reference).or (standsFor ids ts reference) := by
  unfold standsFor
  rw [List.reverse_append, List.find?_append]
  cases us.reverse.find? (·.isCalled ids reference) <;> rfl

theorem standsFor_eq_none {ts : List Told} {reference : String} :
    standsFor ids ts reference = none ↔ ∀ v ∈ ts, v.isCalled ids reference = false := by
  simp [standsFor]

/-- An element that was declared keeps its identifier just if no declaration behind it takes that over. -/
theorem standsFor_iff (injective : Function.Injective ids)
    (apart : ts.Pairwise fun u v => (u.names? ids).isSome = true → u.around.drawn < v.around.drawn) {u : Told}
    (hu : u ∈ ts) (declares : u.Declares ids name id) :
    standsFor ids ts name = some id ↔ ¬ TakenOver ids ts name id := by
  have shadowed : ∀ before u after, ts = before ++ u :: after → u.Declares ids name id →
      (standsFor ids ts name = some id ↔ ∀ v ∈ after, v.isCalled ids name = false) := by
    rintro before u after rfl declares
    have own : standsFor ids (before ++ [u]) name = some id := by
      rw [Builder.standsFor_concat, if_pos declares.isCalled, declares.2]
    rw [List.append_cons, standsFor_append, own, ← standsFor_eq_none]
    cases later : standsFor ids after name with
    | none => simp
    | some other =>
      simp only [Option.some_or, Option.some.injEq, reduceCtorEq, iff_false]
      rintro rfl
      obtain ⟨v, found, same⟩ := Option.map_eq_some_iff.1 later
      have mem : v ∈ after := List.mem_reverse.1 (List.mem_of_find?_eq_some found)
      obtain ⟨⟨bare, names⟩, drew⟩ := declares
      have drawn := List.rel_of_pairwise_cons (List.pairwise_append.1 apart).2.1 mem (by rw [names]; rfl)
      exact absurd (injective (same.trans drew.symm)) (Nat.ne_of_gt drawn)
  obtain ⟨before, after, split⟩ := List.append_of_mem hu
  constructor
  · rintro kept ⟨before, u, after, split, declares, v, hv, called⟩
    rw [(shadowed before u after split declares).1 kept v hv] at called
    cases called
  · intro free
    refine (shadowed before u after split declares).2 fun v hv => ?_
    by_contra called
    exact free ⟨before, u, after, split, declares, v, hv, by simpa using called⟩

/-! ## Relationships -/

/-- A relationship is tied to the element around it just if the identifier of that stands for it in the end. -/
theorem tiesOwner_iff {stands : String → Option String} {t : Told} {q : PendingRelationship} {r : Relationship}
    (h : t.relationship? = some q) (becomes : q.Becomes stands r) :
    t.TiesOwner r ↔ (t.refersToOwner = true → ∀ owner ∈ t.around.enclosing?, stands owner.1 = some owner.2) := by
  constructor
  · rintro ties own ⟨name, id⟩ inside
    rcases Bool.or_eq_true_iff.1 own with own | own
    · rw [← Told.source_of_isFromOwner h own inside, becomes.source, ties.source own _ inside]
    · rw [← Told.target_of_isToOwner h own inside, becomes.target, ties.target own _ inside]
  · intro known
    refine ⟨fun own owner inside => ?_, fun own owner inside => ?_⟩
    · have there := known (by simp [Told.refersToOwner, own]) owner inside
      rw [← Told.source_of_isFromOwner h own inside, becomes.source] at there
      exact Option.some.inj there
    · have there := known (by simp [Told.refersToOwner, own]) owner inside
      rw [← Told.target_of_isToOwner h own inside, becomes.target] at there
      exact Option.some.inj there

/-- The relationships that are kept have become those of the workspace, in order. -/
theorem becomes_relationships (named : ∀ n, ids n ≠ "") (drawn : Nat) (ss : List Statement) :
    List.Forall₂ (fun t r => ∃ q, t.relationship? = some q ∧ q.Becomes (standsFor ids (handled ids { drawn } ss)) r)
      ((handled ids { drawn } ss).filter fun t =>
        t.isRelationship && t.isKept ids (standsFor ids (handled ids { drawn } ss)))
      ((Builder.feedAll ids { drawn } ss).build ids).workspace.relationships := by
  have taken := Builder.relationships_feedAll ids { drawn } ss
  rw [List.nil_append] at taken
  rw [Builder.build_relationships, taken, List.filter_congr fun t _ => isKept_relationship ids _ t]
  exact (becomes_resolveRelationships ids (idOf?_of_feedAll named drawn ss) _ _).1

theorem tiesOwners_iff (hids : ids.Fresh) (drawn : Nat) (ss : List Statement) :
    TiesOwners ids (handled ids { drawn } ss) ((Builder.feedAll ids { drawn } ss).build ids) ↔
      ∀ t ∈ handled ids { drawn } ss, t.isKept ids (standsFor ids (handled ids { drawn } ss)) = true →
        t.refersToOwner = true → ∀ owner ∈ t.around.enclosing?,
          ¬ TakenOver ids (handled ids { drawn } ss) owner.1 owner.2 := by
  have relationships := becomes_relationships hids.ne_empty drawn ss
  have apart := pairwise_drawn ids { drawn } ss
  have declared : ∀ t ∈ handled ids { drawn } ss, ∀ owner ∈ t.around.enclosing?,
      ∃ u ∈ handled ids { drawn } ss, u.Declares ids owner.1 owner.2 := fun t ht owner inside =>
    (declares_of_mem_stack ht (Builder.mem_stack_of_enclosing? inside)).resolve_left List.not_mem_nil
  generalize handled ids { drawn } ss = ts at *
  refine (forall₂_iff_forall_mem (P := fun t => t.refersToOwner = true → ∀ owner ∈ t.around.enclosing?,
    standsFor ids ts owner.1 = some owner.2) relationships fun _ _ _ ⟨_, hq, becomes⟩ => tiesOwner_iff hq becomes).trans
    ⟨fun known t ht kept own owner inside => ?_, fun free t ht own owner inside => ?_⟩
  · obtain ⟨u, hu, declares⟩ := declared t ht owner inside
    have relationship : t.isRelationship = true := by
      by_contra other
      rw [Told.refersToOwner_of_notRelationship (by simpa using other)] at own
      cases own
    exact (standsFor_iff hids.injective apart hu declares).1
      (known t (List.mem_filter.2 ⟨ht, by simp [relationship, kept]⟩) own owner inside)
  · obtain ⟨mem, both⟩ := List.mem_filter.1 ht
    obtain ⟨u, hu, declares⟩ := declared t mem owner inside
    exact (standsFor_iff hids.injective apart hu declares).2
      (free t mem (Bool.and_eq_true_iff.1 both).2 own owner inside)

/-- A shop that pays the bank behind it, which has a desk of this name. -/
def shopAndBank (desk : String) : String :=
  "model \x7b\nshop = softwareSystem \"Shop\" \x7b\n-> bank \"Pays\"\n\x7d\nbank = softwareSystem \"Bank\" \x7b\n" ++
    desk ++ " = container \"Desk\"\nthis -> shop \"Bills\"\n\x7d\n\x7d"

theorem tiesOwners_shopAndBank :
    let ts := handled IdSource.strokes { drawn := 0 } (tokenize (shopAndBank "desk"))
    let p := (Builder.feedAll IdSource.strokes { drawn := 0 } (tokenize (shopAndBank "desk"))).build IdSource.strokes
    p.workspace.relationships.map (fun r => (r.sourceId, r.targetId)) = [("i", "ii"), ("ii", "i")] ∧
      (TiesOwners IdSource.strokes ts p ↔ ∀ t ∈ ts, t.isKept IdSource.strokes (standsFor IdSource.strokes ts) = true →
        t.refersToOwner = true → ∀ owner ∈ t.around.enclosing?, ¬ TakenOver IdSource.strokes ts owner.1 owner.2) :=
  ⟨by decide +kernel, tiesOwners_iff IdSource.fresh_strokes 0 (tokenize (shopAndBank "desk"))⟩

/-- The shop's own relationship comes from the desk if the desk has the shop's name. -/
theorem not_tiesOwners_shopAndBank :
    let p := (Builder.feedAll IdSource.strokes { drawn := 0 } (tokenize (shopAndBank "shop"))).build IdSource.strokes
    (p.workspace.elements.map (·.name) = ["Shop", "Bank", "Desk"] ∧
      p.workspace.relationships.map (fun r => (r.sourceId, r.targetId)) = [("iii", "ii"), ("ii", "iii")]) ∧
      ¬ TiesOwners IdSource.strokes (handled IdSource.strokes { drawn := 0 } (tokenize (shopAndBank "shop"))) p := by
  decide +kernel

end Blueprint.Dsl
