/-
  Blueprint.Proofs.Service.Anchors — the elements that views are about (`update_view` among the other routes).

  A document gives anchors only to elements that it declares, and every change keeps the anchors but an
  update, which takes an anchor as it is given and does not look for the element.

  Proved: the anchors of the open workspace exist all along a run iff no update in it gives a view an
  anchor that does not exist (`anchorsHold_iff`).
-/

import Blueprint.Proofs.Edit.Anchors
import Blueprint.Proofs.Service.Runs

namespace Blueprint

/-! ## Documents -/

namespace Dsl.Builder

variable {ids : IdSource} {b : Builder}

theorem Sound.anchored_resolveView (h : Sound ids b) {p : PendingView} (hp : p.Sound) {v : View}
    (hv : b.resolveView b.buildElements p = .ok v) : v.AnchoredAmong (b.buildElements.map (·.id)) := by
  have found : ∀ {anchor id : String}, (if anchor = "*" then none else b.table.resolve anchor) = some id →
      id ∈ b.buildElements.map (·.id) := by
    intro anchor id hid
    split at hid
    · cases hid
    · obtain ⟨e, he, rfl, _⟩ := h.isEnd_of_resolve hid
      exact List.mem_map_of_mem he
  have bare : p.view.AnchoredAmong (b.buildElements.map (·.id)) :=
    View.anchoredAmong_of_none hp.systemId hp.containerId
  unfold resolveView at hv
  cases ha : p.anchor with
  | none =>
    simp only [ha, Except.ok.injEq] at hv
    exact hv ▸ bare
  | some anchor =>
    simp only [ha] at hv
    by_cases hk : p.view.kind = .deployment
    · rw [if_pos hk] at hv
      split at hv
      · simp only [Except.ok.injEq] at hv
        subst hv
        split <;> exact ⟨bare.system, bare.container⟩
      · simp only [Except.ok.injEq] at hv
        exact hv ▸ bare
    · rw [if_neg hk] at hv
      split at hv
      · cases hv
      · next id hid =>
        have mem : ∀ i ∈ some id, i ∈ b.buildElements.map (·.id) := by
          intro i hi
          cases hi
          exact found hid
        simp only [Except.ok.injEq] at hv
        subst hv
        split
        · exact ⟨bare.system, mem⟩
        · exact ⟨mem, bare.container⟩

theorem Sound.anchored_resolveViews (h : Sound ids b) {ps : List PendingView} (hps : ∀ p ∈ ps, p.Sound) :
    ∀ v ∈ (b.resolveViews b.buildElements ps).1, v.AnchoredAmong (b.buildElements.map (·.id)) := by
  induction ps with
  | nil => exact fun v hv => by cases hv
  | cons p ps ih =>
    have rest := ih fun q hq => hps q (List.mem_cons_of_mem _ hq)
    rw [resolveViews]
    cases hv : b.resolveView b.buildElements p with
    | error w => exact rest
    | ok v =>
      intro w hw
      rcases List.mem_cons.1 hw with rfl | hw
      · exact h.anchored_resolveView (hps p List.mem_cons_self) hv
      · exact rest w hw

theorem Sound.anchorsExist (h : Sound ids b) : (b.build ids).workspace.AnchorsExist := by
  intro v hv
  rw [Workspace.elementIds, build_elements]
  rw [build_workspace] at hv
  rcases Workspace.mem_cover hv with old | ⟨e, he, id, rfl⟩ | ⟨e, _, id, rfl⟩
  · obtain ⟨root, hroot, ⟨rfl, _⟩ | ⟨w, rfl, _, system, container, _⟩⟩ := (b.uncovered ids).coverLandscape_eq
    · rw [hroot] at old
      exact h.anchored_resolveViews h.views v old
    · rw [hroot] at old
      rcases List.mem_cons.1 old with rfl | old
      · exact View.anchoredAmong_of_none system container
      · exact h.anchored_resolveViews h.views v old
  · exact View.anchored_containerViewFor e id (List.mem_map_of_mem he)
  · exact View.anchoredAmong_of_none rfl rfl

end Dsl.Builder

/-! ## Runs -/

namespace Workspace

theorem anchorsExist_of_parse {ids : IdSource} (hids : ids.Fresh) {drawn : Nat} {text : String} {p : Dsl.Parsed}
    (h : Dsl.parse ids drawn text = .ok p) : p.workspace.AnchorsExist := by
  rw [Dsl.eq_build_of_parse h]
  exact (Dsl.Builder.sound_feedAll hids drawn (Dsl.tokenize text)).anchorsExist

theorem AnchorsExist.withSomeView {ws : Workspace} (h : ws.AnchorsExist) : ws.withSomeView.AnchorsExist := by
  unfold Workspace.withSomeView
  split
  · intro v hv
    rw [List.mem_singleton.1 hv]
    exact View.anchoredAmong_of_none rfl rfl
  · exact h

theorem keptUnder_anchorsExist {ids : IdSource} (hids : ids.Fresh) :
    KeptUnder ids (fun _ ws c => ¬ ws.LosesAnchor c) fun _ ws => ws.AnchorsExist where
  later _ h := h
  new n name v hv := by
    rw [List.mem_singleton.1 hv]
    exact View.anchoredAmong_of_none rfl rfl
  parsed h := anchorsExist_of_parse hids h
  someView h := h.withSomeView
  restored {n ws} remembered h v hv := by
    rw [elementIds_restoredIn]
    exact h v hv
  arranged {n ws} h v hv := by
    rw [elementIds_arrange]
    exact h v hv
  changed h _ keeps ho := h.apply keeps ho

end Workspace

namespace Desk

/-- The message asks for an update that gives a view an anchor that does not exist. -/
def LosesAnchor (d : Desk) (m : Message) : Prop :=
  ∃ c ws, m.request = .ok (.edit c) ∧ d.session.workspace = some ws ∧ ws.LosesAnchor c

/-- Whenever a workspace is open along a run, the anchors of its views exist. -/
def AnchorsHold (ids : IdSource) (d : Desk) (ms : List Message) : Prop :=
  ∀ before rest, ms = before ++ rest → ∀ ws, (d.after ids before).session.workspace = some ws → ws.AnchorsExist

/-- What is asked for is done. -/
theorem LosesAnchor.receive {d : Desk} {m : Message} (loses : d.LosesAnchor m) (ids : IdSource) :
    ∃ ws, (d.receive ids m).1.session.workspace = some ws ∧ ¬ ws.AnchorsExist := by
  obtain ⟨c, ws, asked, opened, loses⟩ := loses
  obtain ⟨o, ho, dangling⟩ := loses.apply ids d.drawn
  exact ⟨o.workspace, receive_edit asked opened ho, dangling⟩

theorem anchorsHold_iff {ids : IdSource} (hids : ids.Fresh) (bound drawn : Nat) (files : Files) (ms : List Message)
    (noJson : ∀ before m rest, ms = before ++ m :: rest →
      ¬ (Desk.after ids { session := { bound }, files, drawn } before).OpensJson ids m) :
    AnchorsHold ids { session := { bound }, files, drawn } ms ↔
      ∀ before m rest, ms = before ++ m :: rest →
        ¬ (Desk.after ids { session := { bound }, files, drawn } before).LosesAnchor m := by
  constructor
  · intro hold before m rest split loses
    obtain ⟨ws, opened, dangling⟩ := loses.receive ids
    rw [← after_concat] at opened
    exact dangling (hold (before ++ [m]) rest (by rw [split, List.append_cons]) ws opened)
  · intro keeps before rest split ws opened
    have start : Session.Every (fun ws => ws.AnchorsExist) { bound } :=
      ⟨fun _ hw => (nomatch hw), fun _ hw => (nomatch hw), fun _ hw => (nomatch hw)⟩
    have kept : (Desk.after ids { session := { bound }, files, drawn } before).session.Every
        fun ws => ws.AnchorsExist := by
      refine (Workspace.keptUnder_anchorsExist hids).after (d := { session := { bound }, files, drawn }) start
        fun front m back e => ?_
      have here : ms = front ++ m :: (back ++ rest) := by rw [split, e, List.append_assoc, List.cons_append]
      refine ⟨fun path r asked read => ?_, fun c ws asked opened loses => ?_⟩
      · by_contra json
        exact noJson front m _ here ⟨path, r, asked, read, by simpa using json⟩
      · exact keeps front m _ here ⟨c, ws, asked, opened, loses⟩
    exact kept.current ws opened

/-- A system is created, and the view that came along with it gets another anchor. -/
def creationAndUpdate (anchor : String) : List Message :=
  [sending .post "/api/workspace/new" [], sending .post "/api/elements" [("kind", .str "softwareSystem")],
    sending .patch "/api/views/ii" [("software_system_id", .str anchor)]]

theorem not_opensJson_creationAndUpdate (anchor : String) (ids : IdSource) (d : Desk) :
    ∀ m ∈ creationAndUpdate anchor, ¬ d.OpensJson ids m := by
  intro m mem ⟨path, r, asked, _⟩
  simp only [creationAndUpdate, List.mem_cons, List.not_mem_nil, or_false] at mem
  rcases mem with rfl | rfl | rfl
  · cases asked
  · cases asked
  · cases asked

theorem anchorsHold_creationAndUpdate :
    (Desk.after IdSource.strokes {} (creationAndUpdate "i")).session.workspace.map (·.views.map (·.softwareSystemId)) =
        some [none, some "i"] ∧
      AnchorsHold IdSource.strokes {} (creationAndUpdate "i") := by
  have created : (Desk.after IdSource.strokes {} ((creationAndUpdate "i").take 2)).session.workspace.map
      (·.elementIds) = some ["i"] := by decide +kernel
  refine ⟨by decide +kernel, (anchorsHold_iff IdSource.fresh_strokes 100 0 {} _ fun before m rest split => ?_).2 ?_⟩
  · exact not_opensJson_creationAndUpdate "i" _ _ m (by rw [split]; exact List.mem_append_cons_self)
  · intro before m rest split ⟨c, ws, asked, opened, loses⟩
    rcases before with _ | ⟨_, _ | ⟨_, _ | ⟨_, before⟩⟩⟩ <;>
      simp only [creationAndUpdate, List.nil_append, List.cons_append, List.cons.injEq] at split
    · obtain ⟨rfl, _⟩ := split
      cases asked
    · obtain ⟨rfl, rfl, _⟩ := split
      cases asked
      exact loses
    · obtain ⟨rfl, rfl, rfl, _⟩ := split
      cases asked
      obtain ⟨_, anchor, missing, system | container⟩ := loses
      · have known : some ["i"] = some ws.elementIds :=
          created.symm.trans (congrArg (Option.map (·.elementIds)) opened)
        cases system
        exact missing (by rw [← Option.some.inj known]; exact List.mem_singleton_self _)
      · cases container
    · simp at split

theorem not_anchorsHold_creationAndUpdate :
    (∀ before m rest, creationAndUpdate "ghost" = before ++ m :: rest →
        ¬ (Desk.after IdSource.strokes {} before).OpensJson IdSource.strokes m) ∧
      ¬ AnchorsHold IdSource.strokes {} (creationAndUpdate "ghost") := by
  have last : ∃ ws, (Desk.after IdSource.strokes {} ((creationAndUpdate "ghost").take 2)).session.workspace = some ws ∧
      (ws.elementIds, (ws.view? "ii").isSome) = (["i"], true) :=
    Option.map_eq_some_iff.1 (by decide +kernel)
  obtain ⟨ws, opened, same⟩ := last
  obtain ⟨known, there⟩ := Prod.mk.inj same
  have loses : (Desk.after IdSource.strokes {} ((creationAndUpdate "ghost").take 2)).LosesAnchor
      (creationAndUpdate "ghost")[2] :=
    ⟨_, ws, rfl, opened, there, "ghost", by rw [known]; decide, .inl rfl⟩
  obtain ⟨after, opened, dangling⟩ := loses.receive IdSource.strokes
  refine ⟨fun before m rest split => ?_, fun hold => dangling (hold (creationAndUpdate "ghost") [] rfl after opened)⟩
  exact not_opensJson_creationAndUpdate "ghost" _ _ m (by rw [split]; exact List.mem_append_cons_self)

end Desk

end Blueprint
