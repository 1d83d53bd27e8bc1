/-
  Blueprint.Proofs.Service.Integrity — the open workspace keeps its references (the routes of `create_app`).

  Whatever messages come, in whatever order, and whether they are met or refused: the workspace that is
  open has integrity. It has it when it is new or read from a document, every change that can be asked
  for keeps it, and so does going through the history.

  Proved: after every run the open workspace has integrity (`integrity_after`).
-/

import Blueprint.Proofs.Service.Runs

namespace Blueprint

variable {ids : IdSource}

namespace Workspace

theorem settled_new (hids : ids.Fresh) (drawn : Nat) (name description : String) :
    (Workspace.new name description).Settled ids drawn := by
  refine ⟨⟨.nil, .nil, List.nodup_singleton _, ?_, ?_, ?_⟩, ?_, ?_, ?_⟩
  · exact fun e he => nomatch he
  · intro id cycle
    obtain ⟨_, ⟨e, he, _⟩, _⟩ := Relation.TransGen.head'_iff.1 cycle
    cases he
  · exact fun r hr => nomatch hr
  · exact fun e he => nomatch he
  · exact fun r hr => nomatch hr
  · intro v hv
    rw [List.mem_singleton.1 hv]
    exact hids.spent_landscape drawn

theorem settled_of_parse (hids : ids.Fresh) {drawn : Nat} {text : String} {p : Dsl.Parsed}
    (h : Dsl.parse ids drawn text = .ok p) : p.workspace.Settled ids p.drawn := by
  have sound := Dsl.Builder.sound_feedAll hids drawn (Dsl.tokenize text)
  rw [Dsl.eq_build_of_parse h]
  refine ⟨sound.integrity hids, fun e he => ?_, fun r hr => ?_, fun v hv => ?_⟩
  · exact hids.spent_of_drawn (sound.drawn_element he)
  · exact hids.spent_of_drawn ((Dsl.Builder.ids_build_relationships hids _).2 r hr)
  · rcases (sound.ids_views hids).2 v hv with root | drawn
    · exact root ▸ hids.spent_landscape _
    · exact hids.spent_of_drawn drawn

variable {drawn : Nat} {ws : Workspace}

theorem Settled.withSomeView (hids : ids.Fresh) (h : ws.Settled ids drawn) : ws.withSomeView.Settled ids drawn := by
  unfold Workspace.withSomeView
  split
  · refine ⟨h.integrity.withViews (List.nodup_singleton _), h.elements, h.relationships, fun v hv => ?_⟩
    rw [List.mem_singleton.1 hv]
    exact hids.spent_landscape drawn
  · exact h

/-- Elements that are moved on the canvas. -/
theorem Settled.relocated (h : ws.Settled ids drawn) {fs : List Element}
    (same : fs.map linkOf = ws.elements.map linkOf) : Settled ids drawn { ws with elements := fs } := by
  refine ⟨h.integrity.relocated same, fun f hf => ?_, h.relationships, h.views⟩
  obtain ⟨e, he, hid, _⟩ := exists_linkOf_eq same hf
  exact hid ▸ h.elements e he

theorem kept_settled (hids : ids.Fresh) : Kept ids fun n ws => ws.Settled ids n where
  later le h := h.mono le
  new n name := settled_new hids n _ _
  parsed h := settled_of_parse hids h
  someView h := h.withSomeView hids
  restored remembered h := by
    refine h.relocated ?_
    rw [List.map_map]
    exact List.map_congr_left fun e _ => rfl
  arranged h := by
    refine h.relocated (List.ext_getElem? fun i => ?_)
    simp only [Grid.arrange, List.getElem?_map, List.getElem?_mapIdx, Option.map_map]
    rfl
  changed h asked made ho := h.apply hids asked made ho

end Workspace

namespace Desk

theorem integrity_after (hids : ids.Fresh) (bound drawn : Nat) (files : Files) (ms : List Message)
    (orderly : ∀ before m rest, ms = before ++ m :: rest →
      (Desk.after ids { session := { bound }, files, drawn } before).Orderly ids m) {ws : Workspace}
    (opened : (Desk.after ids { session := { bound }, files, drawn } ms).session.workspace = some ws) : ws.Integrity := by
  have start : Session.Every (fun ws => ws.Settled ids drawn) { bound } :=
    ⟨fun _ hw => (nomatch hw), fun _ hw => (nomatch hw), fun _ hw => (nomatch hw)⟩
  have kept := (Workspace.kept_settled hids).after (d := { session := { bound }, files, drawn }) start orderly
  exact (kept.current ws opened).integrity

/-- A message that asks for something to be done, with particulars in its body. -/
def posting (path : String) (fields : Json.Fields) : Message :=
  { method := .post, address := { path := path.toList }, body := some (.obj fields) }

/-- A person is created and then renamed. -/
def creationAndRename : List Message :=
  [posting "/api/workspace/new" [], posting "/api/elements" [("kind", .str "person")],
    posting "/api/elements/i/rename" [("name", .str "Shop")]]

theorem integrity_after_rename :
    (Desk.after IdSource.strokes {} creationAndRename).session.workspace.map (·.elementIds) = some ["Shop_Person"] ∧
      ∀ ws, (Desk.after IdSource.strokes {} creationAndRename).session.workspace = some ws → ws.Integrity := by
  refine ⟨by decide +kernel, fun ws opened =>
    integrity_after IdSource.fresh_strokes 100 0 {} creationAndRename (fun before m rest split => ?_) opened⟩
  rcases before with _ | ⟨_, _ | ⟨_, _ | ⟨_, before⟩⟩⟩ <;>
    simp only [creationAndRename, List.nil_append, List.cons_append, List.cons.injEq] at split
  · obtain ⟨rfl, _⟩ := split
    exact .of_request (q := .newWorkspace none) rfl (fun _ e => nomatch e) fun _ _ _ e => nomatch e
  · obtain ⟨rfl, rfl, _⟩ := split
    exact .of_request (q := .edit (.addElement none _)) rfl (fun _ e => nomatch e) fun _ _ _ e _ made => by
      cases e
      cases made
  · obtain ⟨rfl, rfl, rfl, _⟩ := split
    refine .of_request (q := .edit (.renameElement "i" "Shop")) rfl (fun _ e => nomatch e) fun _ ws id e hw made => ?_
    cases e
    have shop : (Desk.after IdSource.strokes {} [posting "/api/workspace/new" [],
        posting "/api/elements" [("kind", .str "person")]]).session.workspace.bind
          (·.idMadeBy (.renameElement "i" "Shop")) = some "Shop_Person" := by decide +kernel
    rw [hw, Option.bind_some, made] at shop
    cases shop
    intro n _ e
    have first := congrArg (fun s : String => s.toList.head?) e
    simp [IdSource.strokes, List.replicate_succ] at first
  · simp at split

end Desk

end Blueprint
