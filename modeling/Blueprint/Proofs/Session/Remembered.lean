/-
  Blueprint.Proofs.Session.Remembered — where the elements of a document stand that is imported (`export_dsl`
  and then `import_dsl`).

  Reading a document draws new ids, so a session remembers positions by name and kind, those in the open
  workspace last. An element that is imported stands where its name and kind are remembered, whatever the
  document records for it. A workspace that is imported from its own export finds itself remembered: each
  element stands where the last one of its name and kind did.

  Proved: what is remembered is where the last element of a name and kind stands (`find?_rememberEach`),
  and the export of a workspace brings back its layout iff no two elements of the same name and kind stand
  apart (`keepsLayout_iff`). That of two people with one name the first loses the place
  (`not_keepsLayout_namesakes`).
-/

import Blueprint.Proofs.Dsl.PositionRoundTrip
import Blueprint.Proofs.Dsl.ViewRoundTrip
import Blueprint.Proofs.Related
import Blueprint.Proofs.Session.Reopened

namespace Blueprint

open Text Dsl

/-- A kind has no bar, so name and kind can be told from each other. -/
theorem Element.memoryKey_inj {e f : Element} : e.memoryKey = f.memoryKey ↔ e.name = f.name ∧ e.kind = f.kind := by
  -- A name may hold bars, so it is the last bar that parts a key: both keys have as many in front of it.
  have noBar : ∀ kind : ElementKind, kind.keyword.toList.count '|' = 0 := by
    intro kind
    cases kind <;> decide
  have barred : ∀ g : Element, g.memoryKey.toList = g.name.toList ++ '|' :: g.kind.keyword.toList := by
    intro g
    rw [memoryKey, String.toList_append, String.toList_append, List.append_assoc]
    rfl
  constructor
  · intro same
    have parts := congrArg String.toList same
    rw [barred, barred] at parts
    have bars := congrArg (List.count '|') parts
    simp only [List.count_append, List.count_cons_self, noBar, Nat.add_right_cancel_iff] at bars
    obtain ⟨name, kind⟩ := parted_unique parts bars
    exact ⟨String.toList_inj.1 name, eq_of_keyword ElementKind.ofKeyword?_keyword kind⟩
  · intro ⟨name, kind⟩
    rw [memoryKey, memoryKey, name, kind]

/-- The last element with this one's name and kind. -/
def lastLike? (elements : List Element) (e : Element) : Option Element :=
  elements.reverse.find? fun f => f.name = e.name ∧ f.kind = e.kind

section

variable {es : List Element} {e f : Element}

theorem exists_lastLike? (he : e ∈ es) : ∃ f ∈ es, lastLike? es e = some f ∧ f.name = e.name ∧ f.kind = e.kind := by
  have some : (lastLike? es e).isSome := by
    rw [lastLike?, List.find?_isSome]
    exact ⟨e, List.mem_reverse.2 he, by simp⟩
  obtain ⟨f, found⟩ := Option.isSome_iff_exists.1 some
  have like : f.name = e.name ∧ f.kind = e.kind := by simpa using List.find?_some found
  exact ⟨f, List.mem_reverse.1 (List.mem_of_find?_eq_some found), found, like⟩

theorem lastLike?_congr (name : e.name = f.name) (kind : e.kind = f.kind) : lastLike? es e = lastLike? es f := by
  rw [lastLike?, lastLike?, name, kind]

end

/-- The copy of an element stands where the last element with its name and kind did. -/
def Element.IsRestored (ws : Workspace) (e c : Element) : Prop :=
  (lastLike? ws.elements e).map (·.position) = some c.position

/-- Elements of the same name and kind, if the kind is shown, stand in the same place. -/
def Workspace.SharesPlaces (ws : Workspace) : Prop :=
  ∀ e ∈ ws.elements, ∀ f ∈ ws.elements, ws.Shows e.kind → e.name = f.name → e.kind = f.kind →
    e.position.plain = f.position.plain

namespace Session

variable {ids : IdSource} {drawn : Nat} {s : Session} {ws : Workspace} {text : String}

/-- What is remembered last is found first. -/
theorem find?_rememberEach (remembered : Dictionary Position) (es : List Element) (e : Element) :
    (rememberEach remembered es).find? e.memoryKey =
      ((lastLike? es e).map (·.position)).or (remembered.find? e.memoryKey) := by
  induction es using List.reverseRecOn with
  | nil => rfl
  | append_singleton es f ih =>
    have last : rememberEach remembered (es ++ [f]) = (rememberEach remembered es).insert f.memoryKey f.position := by
      simp [rememberEach]
    rw [last, Dictionary.find?_insert, ih]
    by_cases like : f.name = e.name ∧ f.kind = e.kind
    · rw [if_pos (Element.memoryKey_inj.2 like)]
      simp [lastLike?, like]
    · rw [if_neg fun same => like (Element.memoryKey_inj.1 same)]
      simp [lastLike?, like]

/-- An element like one of those that are remembered takes the place of the last like it. -/
theorem isRestored_restored (remembered : Dictionary Position) {e c : Element} (he : e ∈ ws.elements)
    (name : c.name = e.name) (kind : c.kind = e.kind) :
    e.IsRestored ws (restored (rememberEach remembered ws.elements) c) := by
  obtain ⟨f, _, found, _⟩ := exists_lastLike? he
  have here : lastLike? ws.elements c = some f := (lastLike?_congr name kind).trans found
  simp [Element.IsRestored, restored, find?_rememberEach, found, here]

/-- A document that is read takes the place of the open workspace, its elements where they are remembered. -/
theorem exists_importDocument (opened : s.workspace = some ws) {p : Parsed} (read : parse ids drawn text = .ok p) :
    ∃ t, s.importDocument ids drawn text = .ok (t, p.drawn) ∧
      t.workspace = some (restoredIn (rememberEach s.remembered ws.elements) p.workspace) := by
  refine ⟨_, by rw [importDocument, read]; rfl, ?_⟩
  simp only [commit, remember, opened]

/-- The elements of a workspace that is imported from its own export. -/
theorem restored_document (ids : IdSource) (drawn : Nat) (opened : s.workspace = some ws)
    (plain : ∀ v ∈ ws.views, v.name ≠ gap) (h : ws.IsLegible) (finite : HasFinitePositions ws.elements) :
    ∃ text, s.exportDocument = .ok text ∧ ((braceCounts text).1 = (braceCounts text).2 →
      ∃ t n after rename, s.importDocument ids drawn text = .ok (t, n) ∧ t.workspace = some after ∧
        List.Forall₂ (fun e c => e.Mirrors rename c ∧ e.IsRestored ws c) (Tree.preorderAll ws.forest)
          after.elements) := by
  have indent : IsIndent usualStep := by decide
  have perm := perm_preorder_forest h.ids h.acyclic
  obtain ⟨rename, draws⟩ := exists_draws ids drawn ((perm.map _).nodup_iff.2 h.ids)
  refine ⟨_, exportDocument_eq opened plain (write_eq finite usualStep), fun balanced => ?_⟩
  have holds := Builder.holds_document indent h (finite.shown _) drawn draws
  obtain ⟨t, imported, workspace⟩ := exists_importDocument opened (parse_of_balanced ids drawn balanced)
  refine ⟨t, _, _, rename, imported, workspace, ?_⟩
  simp only [restoredIn, Builder.build_elements]
  rw [List.forall₂_map_right_iff]
  refine holds.forall₂_elements h fun i e p he read => ⟨⟨read.id, read.kind, read.name, read.parentId⟩, ?_⟩
  exact isRestored_restored s.remembered he read.name read.kind

/-- No element of a kind that is shown stands apart from the last one of its name and kind. -/
theorem sharesPlaces_iff : ws.SharesPlaces ↔ ∀ e ∈ ws.elements, ws.Shows e.kind →
    ∀ f, lastLike? ws.elements e = some f → f.position.plain = e.position.plain := by
  constructor
  · intro shares e he shown f found
    obtain ⟨g, hg, found', name, kind⟩ := exists_lastLike? he
    cases found.symm.trans found'
    exact (shares e he f hg shown name.symm kind.symm).symm
  · intro last e he f hf shown name kind
    obtain ⟨g, _, found, _⟩ := exists_lastLike? he
    have there : lastLike? ws.elements f = some g := (lastLike?_congr name kind).symm.trans found
    exact (last e he shown g found).symm.trans (last f hf (kind ▸ shown) g there)

/-- A workspace that is imported from its own export keeps its layout iff elements that are named alike stand
together. -/
theorem keepsLayout_iff (ids : IdSource) (drawn : Nat) (opened : s.workspace = some ws)
    (plain : ∀ v ∈ ws.views, v.name ≠ gap) (h : ws.IsLegible) (finite : HasFinitePositions ws.elements) :
    ∃ text, s.exportDocument = .ok text ∧ ((braceCounts text).1 = (braceCounts text).2 →
      ∃ t n after, s.importDocument ids drawn text = .ok (t, n) ∧ t.workspace = some after ∧
        ∃ order rename, ws.Preorder (ws.childrenOf none) order ∧ order.Perm ws.elements ∧
          List.Forall₂ (fun e c => e.Mirrors rename c ∧ e.IsRestored ws c) order after.elements ∧
          (List.Forall₂ (fun e c => ws.Shows e.kind → c.position.plain = e.position.plain) order after.elements ↔
            ws.SharesPlaces)) := by
  obtain ⟨text, exported, taken⟩ := restored_document ids drawn opened plain h finite
  refine ⟨text, exported, fun balanced => ?_⟩
  obtain ⟨t, n, after, rename, imported, workspace, restored⟩ := taken balanced
  have perm := perm_preorder_forest h.ids h.acyclic
  refine ⟨t, n, after, imported, workspace, _, rename, preorder_forest h, perm, restored, ?_⟩
  rw [sharesPlaces_iff, forall₂_iff_forall_mem restored fun e c _ ⟨_, place⟩ => ?_]
  · exact forall_congr' fun e => by rw [perm.mem_iff]
  · refine imp_congr_right fun _ => ?_
    unfold Element.IsRestored at place
    obtain ⟨f, found, position⟩ := Option.map_eq_some_iff.1 place
    simp [found, position]

/-! ## Two elements of one name -/

/-- Ann, and another element of that name. -/
def namesakes (kind : ElementKind) : Workspace :=
  { name := "Namesakes", description := ""
    elements :=
      [{ id := "ann", kind := .person, name := "Ann", position := ⟨.ofInt 100, .ofInt 100⟩ },
        { id := "other", kind, name := "Ann", position := ⟨.ofInt 500, .ofInt 300⟩ }]
    views := [landscapeView "All"] }

theorem isLegible_namesakes (kind : ElementKind) : (namesakes kind).IsLegible where
  ids := by cases kind <;> decide
  lastOfId := by cases kind <;> decide
  parents := by cases kind <;> decide
  acyclic := ParentsFirst.acyclic (by cases kind <;> decide) (by cases kind <;> decide)
  texts := by cases kind <;> decide

theorem isWhole_namesakes (kind : ElementKind) : ∀ e ∈ (namesakes kind).elements, e.position.IsWhole := by
  cases kind <;> decide +kernel

theorem balanced_namesakes {kind : ElementKind} {text : String}
    (exported : exportDocument { workspace := some (namesakes kind) } = .ok text) :
    (braceCounts text).1 = (braceCounts text).2 := by
  have plain : ∀ v ∈ (namesakes kind).views, v.name ≠ gap := by cases kind <;> decide
  obtain ⟨same, written, balanced⟩ := balanced_document_iff (finite_of_isWhole (isWhole_namesakes kind))
  obtain rfl := Except.ok.inj (exported.symm.trans (exportDocument_eq rfl plain written))
  exact balanced.2 (by cases kind <;> decide +kernel)

theorem keepsLayout_iff_namesakes :
    ∃ text t n after order, exportDocument { workspace := some (namesakes .softwareSystem) } = .ok text ∧
      importDocument IdSource.strokes 0 { workspace := some (namesakes .softwareSystem) } text = .ok (t, n) ∧
        t.workspace = some after ∧ (namesakes .softwareSystem).Preorder (namesakes .softwareSystem).elements order ∧
          List.Forall₂ (fun e c => (namesakes .softwareSystem).Shows e.kind → c.position.plain = e.position.plain)
            order after.elements := by
  have plain : ∀ v ∈ (namesakes .softwareSystem).views, v.name ≠ gap := by decide
  obtain ⟨text, exported, taken⟩ := keepsLayout_iff IdSource.strokes 0
    (s := { workspace := some (namesakes .softwareSystem) }) rfl plain (isLegible_namesakes _)
    (finite_of_isWhole (isWhole_namesakes _))
  obtain ⟨t, n, after, imported, workspace, order, rename, preorder, _, _, keeps⟩ := taken (balanced_namesakes exported)
  refine ⟨text, t, n, after, order, exported, imported, workspace, preorder, keeps.2 ?_⟩
  intro e he f hf _ _ kind
  simp only [namesakes, List.mem_cons, List.not_mem_nil, or_false] at he hf
  rcases he with rfl | rfl <;> rcases hf with rfl | rfl
  · rfl
  · cases kind
  · cases kind
  · rfl

/-- The document records both places, and after it is imported both people stand in one. -/
theorem not_keepsLayout_namesakes :
    ∃ text p t n after, exportDocument { workspace := some (namesakes .person) } = .ok text ∧
      (braceCounts text).1 = (braceCounts text).2 ∧ parse IdSource.strokes 0 text = .ok p ∧
        p.workspace.elements.map (·.position) = (namesakes .person).elements.map (·.position) ∧
          importDocument IdSource.strokes 0 { workspace := some (namesakes .person) } text = .ok (t, n) ∧
            t.workspace = some after ∧
              after.elements.map (·.position) = [⟨.ofInt 500, .ofInt 300⟩, ⟨.ofInt 500, .ofInt 300⟩] := by
  have plain : ∀ v ∈ (namesakes .person).views, v.name ≠ gap := by decide
  have whole := isWhole_namesakes .person
  have legible := isLegible_namesakes .person
  have order : Tree.preorderAll (namesakes .person).forest = (namesakes .person).elements := by decide
  obtain ⟨text, exported, taken⟩ := restored_document IdSource.strokes 0
    (s := { workspace := some (namesakes .person) }) rfl plain legible (finite_of_isWhole whole)
  have balanced := balanced_namesakes exported
  obtain ⟨t, n, after, rename, imported, workspace, restored⟩ := taken balanced
  refine ⟨text, _, t, n, after, exported, balanced, parse_of_balanced _ 0 balanced, ?_, imported, workspace, ?_⟩
  · obtain rfl := Except.ok.inj (exported.symm.trans (exportDocument_eq rfl plain
      (write_eq (finite_of_isWhole whole) usualStep)))
    obtain ⟨rename, draws⟩ := exists_draws IdSource.strokes 0 legible.ids
    have placed := placed_feedAll IdSource.strokes legible whole 0 (order ▸ draws)
    rw [order] at placed
    obtain ⟨ann, later, ⟨_, place⟩, second, elements⟩ := List.forall₂_cons_left_iff.1 placed
    obtain ⟨other, others, ⟨_, place'⟩, nothing, rfl⟩ := List.forall₂_cons_left_iff.1 second
    obtain rfl := List.forall₂_nil_left_iff.1 nothing
    have shows : (namesakes .person).Shows .person := ⟨landscapeView "All", by decide, .inl rfl, by decide⟩
    rw [Builder.build_elements, elements, List.map_cons, List.map_singleton, place.shown (by decide) shows,
      place'.shown (by decide) shows]
    decide +kernel
  · rw [order] at restored
    obtain ⟨ann, later, ⟨_, place⟩, second, elements⟩ := List.forall₂_cons_left_iff.1 restored
    obtain ⟨other, others, ⟨_, place'⟩, nothing, rfl⟩ := List.forall₂_cons_left_iff.1 second
    obtain rfl := List.forall₂_nil_left_iff.1 nothing
    rw [elements, List.map_cons, List.map_singleton, ← Option.some.inj place, ← Option.some.inj place']

end Session

end Blueprint
