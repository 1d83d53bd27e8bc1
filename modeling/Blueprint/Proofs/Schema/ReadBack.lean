/-
  Blueprint.Proofs.Schema.ReadBack — a workspace as JSON and back.

  A part of a workspace is read by looking up its fields one by one, so it comes back from any object in
  which the look-ups give what it was written as.

  Proved: a workspace comes back from its own JSON, and no id is drawn for it (`Workspace.read_toJson`).
-/

import Blueprint.Schema.Model

namespace Blueprint

namespace Check

variable {α β : Type} {fields : Json.Fields} {name : String} {older : Option String} {read : Json → Check α} {a : α} {j : Json}

theorem required_fits (found : valueOf? fields name older = some j) (h : read j = .fits a) :
    required fields name read older = .fits a := by
  simp [required, found, h, within]

theorem optional_fits {absent : α} (found : valueOf? fields name older = some j) (h : read j = .fits a) :
    optional fields name absent read older = .fits a := by
  simp [optional, found, h, within]

theorem present_fits (found : valueOf? fields name older = some j) (h : read j = .fits a) :
    present fields name read older = .fits (some a) :=
  optional_fits found (by rw [h]; rfl)

@[simp] theorem text_str (s : String) : text (.str s) = .fits s := rfl

@[simp] theorem truth_bool (b : Bool) : truth (.bool b) = .fits b := rfl

@[simp] theorem number_real (x : Binary64) : number (.real x) = .fits x := rfl

theorem word_fits {ofKeyword? : String → Option α} {s : String} (h : ofKeyword? s = some a) :
    word ofKeyword? (.str s) = .fits a := by
  simp [word, h, meaning]

/-- A value that is there is not written as null. -/
theorem nullable_ofOption (write : β → Json) {read : Json → Check β} (filled : ∀ b, write b ≠ .null)
    (back : ∀ b, read (write b) = .fits b) (o : Option β) : nullable read (Json.ofOption write o) = .fits o := by
  cases o with
  | none => rfl
  | some b =>
    have h := back b
    have hb := filled b
    simp only [Json.ofOption]
    cases hj : write b <;> simp_all [nullable, map]

@[simp] theorem nullable_optionalText (s : Option String) : nullable text (Json.optionalText s) = .fits s :=
  nullable_ofOption .str (fun _ => by simp) (fun _ => rfl) s

theorem items_map (write : β → Json) {read : Json → Check β} (back : ∀ b, read (write b) = .fits b) (i : Nat)
    (bs : List β) : items read i (bs.map write) = .fits bs := by
  induction bs generalizing i with
  | nil => rfl
  | cons b bs ih => simp [items, back, within, map, both, ih]

theorem list_map (write : β → Json) {read : Json → Check β} (back : ∀ b, read (write b) = .fits b) (bs : List β) :
    list read (.arr (bs.map write)) = .fits bs := items_map write back 0 bs

@[simp] theorem list_strings (ss : List String) :
    list text (.strings ss) = .fits ss := list_map .str (fun _ => rfl) ss

@[simp] theorem map_fits_eq (f : α → β) (a : α) : f <$> (Check.fits a) = .fits (f a) := rfl

@[simp] theorem seq_fits_eq (f : α → β) (a : α) : (Check.fits f) <*> (Check.fits a) = .fits (f a) := rfl

end Check

open Check

/-! ## The parts -/

section

variable {fields : Json.Fields} (otherwise : Misfit)

theorem Position.ofFields_fits (p : Position) (x : valueOf? fields "x" none = some (.real p.x))
    (y : valueOf? fields "y" none = some (.real p.y)) : Position.ofFields fields = .fits p := by
  simp only [Position.ofFields, optional_fits x (number_real _), optional_fits y (number_real _), map_fits_eq, seq_fits_eq]

theorem Size.ofFields_fits (s : Size) (width : valueOf? fields "width" none = some (.real s.width))
    (height : valueOf? fields "height" none = some (.real s.height)) : Size.ofFields fields = .fits s := by
  simp only [Size.ofFields, required_fits width (number_real _), required_fits height (number_real _), map_fits_eq,
    seq_fits_eq]

theorem Position.read_toJson (p : Position) : object otherwise Position.ofFields p.toJson = .fits p :=
  Position.ofFields_fits p rfl rfl

theorem Size.read_toJson (s : Size) : object otherwise Size.ofFields s.toJson = .fits s :=
  Size.ofFields_fits s rfl rfl

theorem ElementDraft.ofFields_fits (d : ElementDraft)
    (kind : valueOf? fields "kind" "type" = some (.str d.kind.keyword))
    (name : valueOf? fields "name" none = some (.str d.name))
    (description : valueOf? fields "description" none = some (.str d.description))
    (technology : valueOf? fields "technology" none = some (.optionalText d.technology))
    (tags : valueOf? fields "tags" none = some (.strings d.tags))
    (parent : valueOf? fields "parent_id" "parentId" = some (.optionalText d.parentId))
    (isExternal : valueOf? fields "is_external" "isExternal" = some (.bool d.isExternal))
    (position : valueOf? fields "position" none = some d.position.toJson)
    (size : valueOf? fields "size" none = some (.ofOption Size.toJson d.size)) :
    ElementDraft.ofFields otherwise fields = .fits d := by
  have sizes := nullable_ofOption Size.toJson (fun s => by simp [Size.toJson]) (Size.read_toJson otherwise) d.size
  simp only [ElementDraft.ofFields, required_fits kind (word_fits (ElementKind.ofKeyword?_keyword _)),
    required_fits name (text_str _), optional_fits description (text_str _),
    optional_fits technology (nullable_optionalText _), optional_fits tags (list_strings _),
    optional_fits parent (nullable_optionalText _), optional_fits isExternal (truth_bool _),
    optional_fits position (Position.read_toJson otherwise _), optional_fits size sizes, map_fits_eq, seq_fits_eq]

theorem RelationshipDraft.ofFields_fits (d : RelationshipDraft)
    (source : valueOf? fields "source_id" "sourceId" = some (.str d.sourceId))
    (target : valueOf? fields "target_id" "targetId" = some (.str d.targetId))
    (description : valueOf? fields "description" none = some (.str d.description))
    (technology : valueOf? fields "technology" none = some (.optionalText d.technology))
    (kind : valueOf? fields "kind" "type" = some (.str d.kind.keyword))
    (tags : valueOf? fields "tags" none = some (.strings d.tags)) :
    RelationshipDraft.ofFields fields = .fits d := by
  simp only [RelationshipDraft.ofFields, required_fits source (text_str _), required_fits target (text_str _),
    optional_fits description (text_str _), optional_fits technology (nullable_optionalText _),
    optional_fits kind (word_fits (RelationshipKind.ofKeyword?_keyword _)), optional_fits tags (list_strings _),
    map_fits_eq, seq_fits_eq]

theorem ViewDraft.ofFields_fits (d : ViewDraft) (key : valueOf? fields "key" none = some (.str d.key))
    (kind : valueOf? fields "kind" "type" = some (.str d.kind.keyword))
    (system : valueOf? fields "software_system_id" "softwareSystemId" = some (.optionalText d.softwareSystemId))
    (container : valueOf? fields "container_id" "containerId" = some (.optionalText d.containerId))
    (name : valueOf? fields "name" none = some (.str d.name))
    (description : valueOf? fields "description" none = some (.str d.description)) :
    ViewDraft.ofFields fields = .fits d := by
  simp only [ViewDraft.ofFields, required_fits key (text_str _),
    required_fits kind (word_fits (ViewKind.ofKeyword?_keyword _)), optional_fits system (nullable_optionalText _),
    optional_fits container (nullable_optionalText _), optional_fits name (text_str _),
    optional_fits description (text_str _), map_fits_eq, seq_fits_eq]

theorem identified_fits {α : Type} {draft : Check α} {a : α} {id : String}
    (found : valueOf? fields "id" none = some (.str id)) (h : draft = .fits a) :
    identified fields draft = .fits (some id, a) := by
  simp only [identified, present_fits found (text_str _), h, map_fits_eq, seq_fits_eq]

end

theorem Element.read_toJson (otherwise : Misfit) (e : Element) :
    ElementDraft.read otherwise e.toJson = .fits (some e.id, e.toElementDraft) := by
  simp only [Element.toJson, ElementDraft.read, object]
  exact identified_fits rfl (ElementDraft.ofFields_fits otherwise _ rfl rfl rfl rfl rfl rfl rfl rfl rfl)

theorem Relationship.read_toJson (otherwise : Misfit) (r : Relationship) :
    RelationshipDraft.read otherwise r.toJson = .fits (some r.id, r.toRelationshipDraft) := by
  simp only [Relationship.toJson, RelationshipDraft.read, object]
  exact identified_fits rfl (RelationshipDraft.ofFields_fits _ rfl rfl rfl rfl rfl rfl)

theorem View.read_toJson (otherwise : Misfit) (v : View) :
    ViewDraft.read otherwise v.toJson = .fits (some v.id, v.toViewDraft) := by
  simp only [View.toJson, ViewDraft.read, object]
  exact identified_fits rfl (ViewDraft.ofFields_fits _ rfl rfl rfl rfl rfl rfl)

/-! ## The workspace -/

/-- Nothing is drawn for what has an id. -/
theorem IdSource.complete_identified {α β : Type} (ids : IdSource) (withId : α → String → β) (drawn : Nat)
    (idOf : β → String) (draftOf : β → α) (same : ∀ b, withId (draftOf b) (idOf b) = b) (bs : List β) :
    ids.complete withId drawn (bs.map fun b => (some (idOf b), draftOf b)) = (bs, drawn) := by
  induction bs with
  | nil => rfl
  | cons b bs ih => simp only [List.map_cons, complete, choose, ih, same]

namespace Workspace

/-- The workspace as a draft in which every part has its id. -/
def toDraft (ws : Workspace) : WorkspaceDraft :=
  { name := ws.name, description := ws.description
    elements := ws.elements.map fun e => (some e.id, e.toElementDraft)
    relationships := ws.relationships.map fun r => (some r.id, r.toRelationshipDraft)
    views := ws.views.map fun v => (some v.id, v.toViewDraft) }

theorem complete_toDraft (ids : IdSource) (drawn : Nat) (ws : Workspace) :
    ws.toDraft.complete ids drawn = (ws, drawn) := by
  simp only [WorkspaceDraft.complete, toDraft]
  rw [ids.complete_identified ElementDraft.withId drawn (·.id) (·.toElementDraft) fun _ => rfl,
    ids.complete_identified RelationshipDraft.withId drawn (·.id) (·.toRelationshipDraft) fun _ => rfl,
    ids.complete_identified ViewDraft.withId drawn (·.id) (·.toViewDraft) fun _ => rfl]

theorem mapIdx_const {α β : Type} (write : β → α) (bs : List β) : bs.mapIdx (fun _ => write) = bs.map write :=
  List.ext_getElem? (by simp)

theorem readParts_mapIdx {α β : Type} {fields : Json.Fields} {name : String} (write : Nat → β → Json)
    {readOne : Json → Check α} {value : β → α} (back : ∀ i b, readOne (write i b) = .fits (value b)) {bs : List β}
    (found : Json.Fields.get? fields name = some (.arr (bs.mapIdx write))) :
    WorkspaceDraft.readParts fields name readOne = .ok (bs.map value) := by
  simp only [WorkspaceDraft.readParts, found, Option.elim_some, WorkspaceDraft.parts?]
  clear found
  induction bs generalizing write with
  | nil => rfl
  | cons b bs ih =>
    rw [List.mapIdx_cons, List.mapM_cons, back, ih (fun i => write (i + 1)) fun i => back (i + 1)]
    rfl

theorem readParts_map {α β : Type} {fields : Json.Fields} {name : String} (write : β → Json)
    {readOne : Json → Check α} {value : β → α} (back : ∀ b, readOne (write b) = .fits (value b)) {bs : List β}
    (found : Json.Fields.get? fields name = some (.arr (bs.map write))) :
    WorkspaceDraft.readParts fields name readOne = .ok (bs.map value) :=
  readParts_mapIdx (fun _ => write) (fun _ => back) (by rw [found, mapIdx_const])

theorem read_fits {fields : Json.Fields} {d : WorkspaceDraft} (name : valueOf? fields "name" none = some (.str d.name))
    (description : valueOf? fields "description" none = some (.str d.description))
    (elements : WorkspaceDraft.readParts fields "elements" (ElementDraft.read .notObject) = .ok d.elements)
    (relationships : WorkspaceDraft.readParts fields "relationships" (RelationshipDraft.read .notObject) =
      .ok d.relationships)
    (views : WorkspaceDraft.readParts fields "views" (ViewDraft.read .notObject) = .ok d.views) :
    WorkspaceDraft.read (.obj fields) = .ok d := by
  simp only [WorkspaceDraft.read, elements, relationships, views, bind, Except.bind, optional_fits name (text_str _),
    optional_fits description (text_str _), map_fits_eq, seq_fits_eq]
  rfl

theorem read_toJson (ids : IdSource) (drawn : Nat) (ws : Workspace) :
    read ids drawn ws.toJson = .ok (ws, drawn) := by
  have draft : WorkspaceDraft.read ws.toJson = .ok ws.toDraft :=
    read_fits rfl rfl (readParts_map Element.toJson (Element.read_toJson .notObject) rfl)
      (readParts_map Relationship.toJson (Relationship.read_toJson .notObject) rfl)
      (readParts_map View.toJson (View.read_toJson .notObject) rfl)
  rw [read, draft]
  exact congrArg Except.ok (ws.complete_toDraft ids drawn)

end Workspace

end Blueprint
