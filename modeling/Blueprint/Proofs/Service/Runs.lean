/-
  Blueprint.Proofs.Service.Runs — what holds of a workspace however it came about.

  A desk goes from message to message. To show that something holds of every open workspace it is shown
  of what is new or read, and to outlast each kind of change; it then holds of the whole history, too,
  since the history only brings back what was there. The positions that a session remembers come back in
  what is imported, so something may have to be known of these as well. A run has its terms: no JSON file
  is opened in it, each document that is read, each workspace that is arranged and each change is one that
  is allowed. Of a rename, for one, it may be asked that the id it makes of a name is not drawn later.

  Proved: what is kept in this sense holds after every run on these terms (`KeptOn.after`), and so where
  only the changes have to be allowed (`KeptUnder.after`, `Kept.after`).
-/

import Blueprint.Proofs.Dsl.Soundness
import Blueprint.Proofs.Service.Requested
import Blueprint.Proofs.Session.Every
import Blueprint.Service.Serve

namespace Blueprint

/-- Which documents are read in a run, which workspaces are arranged, and which changes are made. -/
structure Terms where
  reads : String → Prop
  arranges : Workspace → Prop
  changes : Nat → Workspace → Change → Prop

/-- What holds of new workspaces and outlasts all that is done on the terms, if something else holds of
the positions that are remembered. It may speak of the ids that are still to be drawn. -/
structure KeptOn (ids : IdSource) (T : Terms) (R : Dictionary Position → Prop) (P : Nat → Workspace → Prop) : Prop where
  later : ∀ {m n ws}, m ≤ n → P m ws → P n ws
  new : ∀ n name, P n (.new name defaultWorkspaceDescription)
  parsed : ∀ {n text p}, T.reads text → Dsl.parse ids n text = .ok p → P p.drawn p.workspace
  someView : ∀ {n ws}, P n ws → P n ws.withSomeView
  nothing : R {}
  remembered : ∀ {n ws r}, P n ws → R r → R (Session.rememberEach r ws.elements)
  restored : ∀ {n ws r}, R r → P n ws → P n (Session.restoredIn r ws)
  arranged : ∀ {n ws}, T.arranges ws → P n ws → P n { ws with elements := Grid.arrange ws.elements }
  changed : ∀ {n ws c o}, P n ws → c.Offered → T.changes n ws c → ws.apply ids n c = .ok o → P o.drawn o.workspace

/-- What holds of new workspaces, whatever they are made of, and outlasts the changes that can be asked
for and are allowed. It may speak of the ids that are still to be drawn. -/
structure KeptUnder (ids : IdSource) (Allowed : Nat → Workspace → Change → Prop) (P : Nat → Workspace → Prop) :
    Prop where
  later : ∀ {m n ws}, m ≤ n → P m ws → P n ws
  new : ∀ n name, P n (.new name defaultWorkspaceDescription)
  parsed : ∀ {n text p}, Dsl.parse ids n text = .ok p → P p.drawn p.workspace
  someView : ∀ {n ws}, P n ws → P n ws.withSomeView
  restored : ∀ {n ws} remembered, P n ws → P n (Session.restoredIn remembered ws)
  arranged : ∀ {n ws}, P n ws → P n { ws with elements := Grid.arrange ws.elements }
  changed : ∀ {n ws c o}, P n ws → c.Requested → Allowed n ws c → ws.apply ids n c = .ok o → P o.drawn o.workspace

/-- The change makes no id that will be drawn. -/
def IdSource.MakesSpent (ids : IdSource) (drawn : Nat) (ws : Workspace) (c : Change) : Prop :=
  ∀ id, ws.idMadeBy c = some id → ids.Spent drawn id

/-- What is kept as long as no rename makes an id that will be drawn. -/
def Kept (ids : IdSource) : (Nat → Workspace → Prop) → Prop := KeptUnder ids ids.MakesSpent

/-- The terms on which only changes have to be allowed. -/
def Terms.ofChanges (Allowed : Nat → Workspace → Change → Prop) : Terms :=
  { reads := fun _ => True, arranges := fun _ => True, changes := Allowed }

theorem KeptUnder.keptOn {ids : IdSource} {Allowed : Nat → Workspace → Change → Prop} {P : Nat → Workspace → Prop}
    (k : KeptUnder ids Allowed P) : KeptOn ids (.ofChanges Allowed) (fun _ => True) P where
  later := k.later
  new := k.new
  parsed _ h := k.parsed h
  someView := k.someView
  nothing := trivial
  remembered _ _ := trivial
  restored _ h := k.restored _ h
  arranged _ h := k.arranged h
  changed h offered := k.changed h offered.requested

/-- A session that knows only such workspaces, and remembers only such positions. -/
structure Session.Holds (P : Workspace → Prop) (R : Dictionary Position → Prop) (s : Session) : Prop where
  every : s.Every P
  remembered : R s.remembered

namespace Workspace

/-- Moving elements on the canvas leaves their ids. -/
theorem elementIds_restoredIn (remembered : Dictionary Position) (ws : Workspace) :
    (Session.restoredIn remembered ws).elementIds = ws.elementIds := by
  simp only [elementIds, Session.restoredIn, List.map_map]
  exact List.map_congr_left fun e _ => rfl

theorem elementIds_arrange (ws : Workspace) :
    elementIds { ws with elements := Grid.arrange ws.elements } = ws.elementIds := by
  refine List.ext_getElem? fun i => ?_
  simp only [elementIds, Grid.arrange, List.getElem?_map, List.getElem?_mapIdx, Option.map_map]
  rfl

end Workspace

namespace Desk

/-- The desk after some messages. -/
def after (ids : IdSource) (d : Desk) (ms : List Message) : Desk := ms.foldl (fun d m => (d.receive ids m).1) d

/-- A message with particulars in its body. -/
def sending (method : Method) (path : String) (fields : Json.Fields) : Message :=
  { method, address := { path := path.toList }, body := some (.obj fields) }

/-- A message that opens no JSON file and makes no id that will be drawn. -/
structure Orderly (ids : IdSource) (d : Desk) (m : Message) : Prop where
  noJson : ∀ path r, m.request = .ok (.openFile path) →
    d.session.openFile ids d.drawn d.files (.ofText path) = .ok r → (Path.ofText path).isJson = false
  madeSpent : ∀ c ws id, m.request = .ok (.edit c) → d.session.workspace = some ws → ws.idMadeBy c = some id →
    ids.Spent d.drawn id

/-- A message that opens no JSON file, and asks for no change but an allowed one. -/
structure KeepsTo (ids : IdSource) (Allowed : Nat → Workspace → Change → Prop) (d : Desk) (m : Message) : Prop where
  noJson : ∀ path r, m.request = .ok (.openFile path) →
    d.session.openFile ids d.drawn d.files (.ofText path) = .ok r → (Path.ofText path).isJson = false
  allowed : ∀ c ws, m.request = .ok (.edit c) → d.session.workspace = some ws → Allowed d.drawn ws c

/-- The document is imported, or stands in the file that is opened. -/
def Reads (d : Desk) (m : Message) (text : String) : Prop :=
  m.request = .ok (.importDocument text) ∨
    ∃ path, m.request = .ok (.openFile path) ∧ d.files.read (.ofText path) = .ok text

/-- A message that opens no JSON file, and asks for nothing but what is on the terms. -/
structure Meets (ids : IdSource) (T : Terms) (d : Desk) (m : Message) : Prop where
  noJson : ∀ path r, m.request = .ok (.openFile path) →
    d.session.openFile ids d.drawn d.files (.ofText path) = .ok r → (Path.ofText path).isJson = false
  reads : ∀ text, d.Reads m text → T.reads text
  arranges : ∀ ws, m.request = .ok .arrange → d.session.workspace = some ws → T.arranges ws
  changes : ∀ c ws, m.request = .ok (.edit c) → d.session.workspace = some ws → T.changes d.drawn ws c

/-- The message opens a JSON file. -/
def OpensJson (ids : IdSource) (d : Desk) (m : Message) : Prop :=
  ∃ path r, m.request = .ok (.openFile path) ∧
    d.session.openFile ids d.drawn d.files (.ofText path) = .ok r ∧ (Path.ofText path).isJson = true

variable {ids : IdSource} {P : Nat → Workspace → Prop} {R : Dictionary Position → Prop} {d e : Desk} {body : Json}

theorem after_concat (ids : IdSource) (d : Desk) (ms : List Message) (m : Message) :
    d.after ids (ms ++ [m]) = ((d.after ids ms).receive ids m).1 := by
  simp [after]

/-- A change that goes through is made in the open workspace. -/
theorem receive_edit {m : Message} {c : Change} {ws : Workspace} {o : Outcome} (asked : m.request = .ok (.edit c))
    (opened : d.session.workspace = some ws) (done : ws.apply ids d.drawn c = .ok o) :
    (d.receive ids m).1.session.workspace = some o.workspace := by
  have changed : d.session.change ids d.drawn c = .ok (d.session.commit o.workspace, o.subject, o.drawn) := by
    simp only [Session.change, Session.requireWorkspace, opened, bind, Except.bind, done]
    rfl
  simp only [Desk.receive, asked, serve, Desk.fulfil, changed, permitted]
  rfl

/-- Whenever a workspace is open along a run, this holds of it. -/
def Always (ids : IdSource) (d : Desk) (ms : List Message) (Q : Workspace → Prop) : Prop :=
  ∀ before rest, ms = before ++ rest → ∀ ws, (d.after ids before).session.workspace = some ws → Q ws

theorem Always.receive {Q : Workspace → Prop} {ms before rest : List Message} {m : Message} (h : d.Always ids ms Q)
    (split : ms = before ++ m :: rest) {ws : Workspace}
    (opened : ((d.after ids before).receive ids m).1.session.workspace = some ws) : Q ws := by
  rw [← after_concat] at opened
  exact h (before ++ [m]) rest (by rw [split, List.append_cons]) ws opened

theorem noJson_of_not_opensJson {m : Message} (h : ¬ d.OpensJson ids m) (path : String) (r : Session × Nat)
    (asked : m.request = .ok (.openFile path))
    (read : d.session.openFile ids d.drawn d.files (.ofText path) = .ok r) : (Path.ofText path).isJson = false := by
  by_contra json
  exact h ⟨path, r, asked, read, by simpa using json⟩

theorem KeepsTo.meets {Allowed : Nat → Workspace → Change → Prop} {m : Message} (h : d.KeepsTo ids Allowed m) :
    d.Meets ids (.ofChanges Allowed) m :=
  ⟨h.noJson, fun _ _ => trivial, fun _ _ _ => trivial, h.allowed⟩

theorem Orderly.keepsTo {m : Message} (h : d.Orderly ids m) : d.KeepsTo ids ids.MakesSpent m :=
  ⟨h.noJson, fun c ws asked opened id => h.madeSpent c ws id asked opened⟩

theorem Orderly.of_request {m : Message} {q : Request} (hm : m.request = .ok q) (noFile : ∀ path, q ≠ .openFile path)
    (madeSpent : ∀ c ws id, q = .edit c → d.session.workspace = some ws → ws.idMadeBy c = some id → ids.Spent d.drawn id) :
    d.Orderly ids m := by
  refine ⟨fun path r h => ?_, fun c ws id h => ?_⟩
  · rw [hm] at h
    cases h
    exact absurd rfl (noFile path)
  · rw [hm] at h
    cases h
    exact madeSpent c ws id rfl

theorem Meets.of_request {T : Terms} {m : Message} {q : Request} (hm : m.request = .ok q)
    (noFile : ∀ path, q ≠ .openFile path) (reads : ∀ text, q = .importDocument text → T.reads text)
    (arranges : ∀ ws, q = .arrange → d.session.workspace = some ws → T.arranges ws)
    (changes : ∀ c ws, q = .edit c → d.session.workspace = some ws → T.changes d.drawn ws c) : d.Meets ids T m := by
  have asked : ∀ {r : Request}, m.request = .ok r → q = r := fun h => Except.ok.inj (hm.symm.trans h)
  refine ⟨fun path _ h => absurd (asked h) (noFile path), fun text read => ?_, fun ws h => arranges ws (asked h),
    fun c ws h => changes c ws (asked h)⟩
  rcases read with h | ⟨path, h, _⟩
  · exact reads text (asked h)
  · exact absurd (asked h) (noFile path)

/-- Saving changes no workspace and draws no id. -/
theorem save_keeps (h : d.session.Holds (P d.drawn) R) (asked : Option String) :
    (d.save asked).1.session.Holds (P (d.save asked).1.drawn) R := by
  unfold save
  split
  · next hs =>
    rw [Session.eq_of_saveFile hs]
    exact ⟨h.every.of_same rfl rfl rfl, h.remembered⟩
  · exact h

theorem afterStep_keeps (h : d.session.Holds (P d.drawn) R) {step : Option Session}
    (hstep : ∀ s, step = some s → s.Holds (P d.drawn) R) (nothing : String) :
    (d.afterStep step nothing).1.session.Holds (P (d.afterStep step nothing).1.drawn) R := by
  cases step with
  | none => exact h
  | some s => exact hstep s rfl

theorem drawn_le_complete (ids : IdSource) (drawn : Nat) (draft : WorkspaceDraft) :
    drawn ≤ (draft.complete ids drawn).2 := by
  have each : ∀ {α β : Type} (withId : α → String → β) (items : List (Option String × α)) (n : Nat),
      n ≤ (ids.complete withId n items).2 := by
    intro α β withId items
    induction items with
    | nil => exact fun n => Nat.le_refl n
    | cons item items ih =>
      obtain ⟨given, a⟩ := item
      intro n
      cases given with
      | none => exact Nat.le_trans (Nat.le_succ n) (ih _)
      | some id => exact ih n
  exact Nat.le_trans (each _ _ _) (Nat.le_trans (each _ _ _) (each _ _ _))

theorem drawn_le_parse {drawn : Nat} {text : String} {p : Dsl.Parsed} (h : Dsl.parse ids drawn text = .ok p) :
    drawn ≤ p.drawn := by
  rw [Dsl.eq_build_of_parse h]
  obtain ⟨le, le'⟩ := (Dsl.Builder.feedAll ids { drawn } (Dsl.tokenize text)).le_build_drawn ids
  exact Nat.le_trans (Dsl.Builder.drawn_le_feedAll ids { drawn } _) (Nat.le_trans le le')

end Desk

namespace Session

variable {P : Workspace → Prop} {R : Dictionary Position → Prop} {s t : Session}

theorem Holds.commit (h : s.Holds P R) {new : Workspace} (hnew : P new) : (s.commit new).Holds P R := by
  refine ⟨h.every.commit hnew, ?_⟩
  unfold Session.commit archive
  split <;> exact h.remembered

theorem Holds.undo? (h : s.Holds P R) (ht : s.undo? = some t) : t.Holds P R := by
  refine ⟨h.every.undo? ht, ?_⟩
  unfold Session.undo? at ht
  split at ht <;> cases ht
  exact h.remembered

theorem Holds.redo? (h : s.Holds P R) (ht : s.redo? = some t) : t.Holds P R := by
  refine ⟨h.every.redo? ht, ?_⟩
  unfold Session.redo? at ht
  split at ht <;> cases ht
  exact h.remembered

/-- Nothing is open and nothing is remembered. -/
theorem holds_nothing (nothing : R {}) (bound : Nat) : Session.Holds P R { bound } :=
  ⟨⟨fun _ hw => (nomatch hw), fun _ hw => (nomatch hw), fun _ hw => (nomatch hw)⟩, nothing⟩

end Session

namespace KeptOn

variable {ids : IdSource} {T : Terms} {R : Dictionary Position → Prop} {P : Nat → Workspace → Prop} {d e : Desk}
  {body : Json}

theorem holds_later (k : KeptOn ids T R P) {s : Session} {m n : Nat} (h : s.Holds (P m) R) (le : m ≤ n) :
    s.Holds (P n) R :=
  ⟨h.every.imp fun _ => k.later le, h.remembered⟩

theorem contents (k : KeptOn ids T R P) {drawn n : Nat} {path : Path} {text : String} {ws : Workspace}
    {warnings : List String} (noJson : path.isJson = false) (reads : T.reads text)
    (h : Session.contents ids drawn path text = .ok (ws, warnings, n)) : P n ws := by
  unfold Session.contents at h
  split at h
  · split at h
    · next parsed => cases h; exact k.parsed reads parsed
    · cases h
  · rw [noJson] at h
    cases h

/-- A file that is opened takes the place of everything. -/
theorem openFile (k : KeptOn ids T R P) {s t : Session} {drawn n : Nat} {files : Files} {path : Path}
    (noJson : path.isJson = false) (reads : ∀ text, files.read path = .ok text → T.reads text)
    (h : s.openFile ids drawn files path = .ok (t, n)) : t.Holds (P n) R := by
  unfold Session.openFile at h
  split at h
  · cases h
  · cases h
  split at h
  · cases h
  next text found =>
    obtain ⟨⟨ws, warnings, m⟩, read, h⟩ := bind_eq_ok.1 h
    cases h
    exact ⟨Session.every_replace _ (k.someView (k.contents noJson (reads text found) read)) _, k.nothing⟩

theorem remember (k : KeptOn ids T R P) {s : Session} {n : Nat} (h : s.Holds (P n) R) : s.remember.Holds (P n) R := by
  refine ⟨h.every.remember, ?_⟩
  unfold Session.remember
  split
  · next ws hw => exact k.remembered (h.every.current ws hw) h.remembered
  · exact h.remembered

theorem importDocument (k : KeptOn ids T R P) {s t : Session} {drawn n : Nat} {text : String} (reads : T.reads text)
    (hs : s.Holds (P drawn) R) (h : s.importDocument ids drawn text = .ok (t, n)) : t.Holds (P n) R := by
  obtain ⟨p, parsed, h⟩ := bind_eq_ok.1 h
  cases h
  have known : Session.Holds (P p.drawn) R { s with warnings := p.warnings } :=
    ⟨(k.holds_later hs (Desk.drawn_le_parse parsed)).every.of_same rfl rfl rfl, hs.remembered⟩
  have kept := k.remember known
  exact kept.commit (k.restored kept.remembered (k.parsed reads parsed))

theorem change (k : KeptOn ids T R P) {s t : Session} {drawn n : Nat} {c : Change} {subject : Subject}
    (hs : s.Holds (P drawn) R) (asked : c.Offered)
    (allowed : ∀ ws, s.workspace = some ws → T.changes drawn ws c)
    (h : s.change ids drawn c = .ok (t, subject, n)) : t.Holds (P n) R := by
  obtain ⟨ws, hw, h⟩ := bind_eq_ok.1 h
  obtain ⟨o, ho, h⟩ := bind_eq_ok.1 h
  cases h
  have current := Session.requireWorkspace_eq_ok.1 hw
  exact (k.holds_later hs (Workspace.drawn_le_apply ho)).commit
    (k.changed (hs.every.current ws current) asked (allowed ws current) ho)

theorem arrange? (k : KeptOn ids T R P) {s t : Session} {drawn : Nat} (hs : s.Holds (P drawn) R)
    (allowed : ∀ ws, s.workspace = some ws → T.arranges ws) (h : s.arrange? = .ok (some t)) : t.Holds (P drawn) R := by
  obtain ⟨ws, hw, h⟩ := bind_eq_ok.1 h
  split at h
  · cases h
  · cases h
    have current := Session.requireWorkspace_eq_ok.1 hw
    exact hs.commit (k.arranged (allowed ws current) (hs.every.current ws current))

/-! ## Requests -/

theorem fulfil (k : KeptOn ids T R P) {m : Message} {q : Request} (h : d.session.Holds (P d.drawn) R)
    (hm : m.request = .ok q) (meets : d.Meets ids T m) (hq : d.fulfil ids q = .ok (e, body)) :
    e.session.Holds (P e.drawn) R := by
  cases q with
  | health => cases hq; exact h
  | state => cases hq; exact h
  | newWorkspace name =>
    cases hq
    exact ⟨Session.every_replace _ (k.new _ _) none, k.nothing⟩
  | openFile path =>
    obtain ⟨r, opened, hq⟩ := bind_eq_ok.1 hq
    cases hq
    have opened := mapError_eq_ok.1 opened
    exact k.openFile (meets.noJson path r hm opened) (fun text found => meets.reads text (.inr ⟨path, hm, found⟩)) opened
  | saveFile file =>
    obtain ⟨b, _, hq⟩ := map_eq_ok.1 hq
    cases hq
    exact Desk.save_keeps h file
  | undo =>
    have kept := Desk.afterStep_keeps h (fun s hs => h.undo? hs) "Nothing to undo"
    rwa [Except.ok.inj hq] at kept
  | redo =>
    have kept := Desk.afterStep_keeps h (fun s hs => h.redo? hs) "Nothing to redo"
    rwa [Except.ok.inj hq] at kept
  | edit c =>
    obtain ⟨r, changed, hq⟩ := bind_eq_ok.1 hq
    cases hq
    exact k.change h (Message.offered_of_request hm) (fun ws => meets.changes c ws hm)
      (mapError_eq_ok.1 changed)
  | element id =>
    simp only [Desk.fulfil] at hq
    split at hq
    · cases hq; exact h
    · cases hq
  | arrange =>
    obtain ⟨r, arranged, hq⟩ := bind_eq_ok.1 hq
    cases r with
    | none => cases hq
    | some s =>
      cases hq
      exact k.arrange? h (fun ws => meets.arranges ws hm) (mapError_eq_ok.1 arranged)
  | readDocument text =>
    obtain ⟨p, parsed, hq⟩ := bind_eq_ok.1 hq
    cases hq
    exact k.holds_later h (Desk.drawn_le_parse (mapError_eq_ok.1 parsed))
  | writeDocument draft =>
    obtain ⟨text, _, hq⟩ := bind_eq_ok.1 hq
    cases hq
    exact k.holds_later h (Desk.drawn_le_complete ids d.drawn draft)
  | checkDocument text =>
    simp only [Desk.fulfil] at hq
    split at hq <;> cases hq <;> exact h
  | importDocument text =>
    obtain ⟨r, imported, hq⟩ := bind_eq_ok.1 hq
    cases hq
    exact k.importDocument (meets.reads text (.inl hm)) h (mapError_eq_ok.1 imported)
  | exportDocument =>
    obtain ⟨text, _, hq⟩ := bind_eq_ok.1 hq
    cases hq
    exact h
  | validate =>
    obtain ⟨ws, _, hq⟩ := bind_eq_ok.1 hq
    cases hq
    exact h
  | vocabulary v => cases hq; exact h

theorem unmet (h : d.session.Holds (P d.drawn) R) (q : Request) :
    (d.unmet q).session.Holds (P (d.unmet q).drawn) R := by
  cases q with
  | saveFile asked => exact Desk.save_keeps h asked
  | _ => exact h

theorem receive (k : KeptOn ids T R P) {m : Message} (h : d.session.Holds (P d.drawn) R) (meets : d.Meets ids T m) :
    (d.receive ids m).1.session.Holds (P (d.receive ids m).1.drawn) R := by
  unfold Desk.receive
  cases hm : m.request with
  | error u => exact h
  | ok q =>
    simp only [Desk.serve]
    cases hq : d.fulfil ids q with
    | error why => cases why <;> exact unmet h q
    | ok r => exact k.fulfil h hm meets hq

/-! ## Runs -/

theorem after (k : KeptOn ids T R P) {ms : List Message} (start : d.session.Holds (P d.drawn) R)
    (meets : ∀ before m rest, ms = before ++ m :: rest → (d.after ids before).Meets ids T m) :
    (d.after ids ms).session.Holds (P (d.after ids ms).drawn) R := by
  induction ms generalizing d with
  | nil => exact start
  | cons m ms ih =>
    refine ih (k.receive start (meets [] m ms rfl)) fun before n rest e => ?_
    exact meets (m :: before) n rest (congrArg (m :: ·) e)

/-- What is kept holds all along a run that starts with nothing open. -/
theorem always (k : KeptOn ids T R P) {bound drawn : Nat} {files : Files} {ms : List Message}
    (meets : ∀ before m rest, ms = before ++ m :: rest →
      (Desk.after ids { session := { bound }, files, drawn } before).Meets ids T m) {Q : Workspace → Prop}
    (implies : ∀ {n ws}, P n ws → Q ws) : Desk.Always ids { session := { bound }, files, drawn } ms Q := by
  intro before rest split ws opened
  refine implies ((k.after (d := { session := { bound }, files, drawn }) (Session.holds_nothing k.nothing bound)
    fun front m back e => ?_).every.current ws opened)
  exact meets front m (back ++ rest) (by rw [split, e, List.append_assoc, List.cons_append])

end KeptOn

theorem KeptUnder.after {ids : IdSource} {Allowed : Nat → Workspace → Change → Prop} {P : Nat → Workspace → Prop}
    {d : Desk} (k : KeptUnder ids Allowed P) {ms : List Message} (start : d.session.Every (P d.drawn))
    (keeps : ∀ before m rest, ms = before ++ m :: rest → (d.after ids before).KeepsTo ids Allowed m) :
    (d.after ids ms).session.Every (P (d.after ids ms).drawn) :=
  (k.keptOn.after ⟨start, trivial⟩ fun before m rest split => (keeps before m rest split).meets).every

theorem Kept.after {ids : IdSource} {P : Nat → Workspace → Prop} {d : Desk} (k : Kept ids P) {ms : List Message}
    (start : d.session.Every (P d.drawn))
    (orderly : ∀ before m rest, ms = before ++ m :: rest → (d.after ids before).Orderly ids m) :
    (d.after ids ms).session.Every (P (d.after ids ms).drawn) :=
  KeptUnder.after k start fun before m rest split => (orderly before m rest split).keepsTo

end Blueprint
