/-
  Blueprint.Proofs.Dsl.Frames — the frames of a builder and the braces of a document (the stack of
  `ModelBuilder`).

  By its text alone, a statement that ends in a brace opens a block, and a closing brace closes the
  innermost block that is open. A builder keeps a frame for each open block, whatever opened it, except
  that relationships, positions and titles push none. Where one of them ends in a brace, the brace
  that closes its block takes away the frame of a block that is still open.

  Proved: what one statement does to the frames (`stack_feed`); along a run the frames follow the braces
  just if no statement of it drops its block (`followsBraces_iff`).
-/

import Blueprint.Proofs.Dsl.Declared
import Blueprint.Proofs.Dsl.Outlines
import Mathlib.Data.List.Induction

namespace Blueprint.Dsl

open Text

/-! ## Braces -/

/-- How many blocks are open behind a statement, by its text alone. -/
def Statement.depthBehind (depth : Nat) (s : Statement) : Nat :=
  if s.isClose then depth - 1 else if s.opens then depth + 1 else depth

/-- How many blocks the statements leave open. -/
def openBlocks (ss : List Statement) : Nat := ss.foldl Statement.depthBehind 0

/-- Every block that is opened among these statements is closed among them, and no other is. -/
inductive IsNested : List Statement → Prop
  | nil : IsNested []
  | plain {s : Statement} {ss : List Statement} :
      s.isClose = false → s.opens = false → IsNested ss → IsNested (s :: ss)
  | block {s t : Statement} {inner ss : List Statement} :
      s.opens = true → IsNested inner → t.isClose = true → IsNested ss → IsNested (s :: (inner ++ t :: ss))

theorem not_isClose_of_opens {s : Statement} (h : s.opens = true) : s.isClose = false := by
  rw [Statement.isClose, beq_eq_false_iff_ne]
  intro e
  rw [Statement.opens, e] at h
  cases h

theorem depthBehind_opens {s : Statement} (h : s.opens = true) (depth : Nat) :
    s.depthBehind depth = depth + 1 := by
  rw [Statement.depthBehind, not_isClose_of_opens h, h, if_neg (by decide), if_pos rfl]

theorem openBlocks_concat (ss : List Statement) (s : Statement) :
    openBlocks (ss ++ [s]) = s.depthBehind (openBlocks ss) := by
  simp [openBlocks]

/-! ## Statements end in no line feed -/

theorem getLast?_of_mem_part {cs t : List Char} (h : t ∈ part cs) : t.getLast? ≠ some '\n' := by
  simp only [part] at h
  split at h
  · cases h
  · rw [List.mem_singleton.1 h]
    intro last
    exact absurd (getLast?_trimRight last) (by decide)

theorem getLast?_of_mem_cut {q : Quoting} {current cs t : List Char} (h : t ∈ cut q current cs) :
    t.getLast? ≠ some '\n' := by
  induction cs generalizing q current with
  | nil => exact getLast?_of_mem_part h
  | cons c cs ih =>
    rw [cut] at h
    split at h
    · exact (List.mem_append.1 h).elim getLast?_of_mem_part ih
    · split at h
      · rcases List.mem_append.1 h with h | h
        · exact getLast?_of_mem_part h
        · rcases List.mem_cons.1 h with rfl | h
          · decide
          · exact ih h
      · exact ih h

theorem getLast?_of_mem_tokenize {text : String} {s : Statement} (h : s ∈ tokenize text) :
    s.text.getLast? ≠ some '\n' := by
  obtain ⟨⟨number, line⟩, _, h⟩ := List.mem_flatMap.1 h
  unfold statementsOf at h
  split at h
  · cases h
  · obtain ⟨t, ht, rfl⟩ := List.mem_map.1 h
    exact getLast?_of_mem_cut ht

/-! ## Frames that are pushed -/

/-- The clause opens a block, for a statement that ends in a brace or not. -/
def Clause.pushes (opens : Bool) : Clause → Bool
  | .model | .views | .styles | .viewElement _ => true
  | .workspace _ | .element _ _ _ _ | .group _ | .view _ _ _ | .unknown => opens
  | .close | .relationship _ _ _ | .elementPosition _ _ _ | .position _ _ | .viewTitle _ => false

/-- The clause opens no block, even if its statement ends in a brace. -/
def Clause.isFrameless : Clause → Bool
  | .relationship _ _ _ | .elementPosition _ _ _ | .position _ _ | .viewTitle _ => true
  | _ => false

theorem suffix_of_dropBlanks? {cs rest : List Char} (h : dropBlanks? cs = some rest) : rest <:+ cs := by
  cases cs with
  | nil => cases h
  | cons c cs =>
    rw [dropBlanks?] at h
    split at h
    · cases h
      exact (List.dropWhile_suffix _).trans (List.suffix_cons _ _)
    · cases h

theorem suffix_of_name? {cs name rest : List Char} (h : name? cs = some (name, rest)) : rest <:+ cs := by
  simp only [name?] at h
  split at h
  · cases h
  · cases h
    exact List.dropWhile_suffix _

theorem suffix_of_dropWord? {word cs rest : List Char} (h : dropWord? word cs = some rest) : rest <:+ cs := by
  unfold dropWord? at h
  split at h
  · cases h
    exact List.drop_suffix _ _
  · cases h

/-- A directive for an element ends in the brace that opens its block. -/
theorem getLast?_of_viewElement? {cs : List Char} (h : viewElement? cs ≠ none) :
    cs.getLast? = some '{' ∨ cs.getLast? = some '\n' := by
  obtain ⟨c, hc⟩ := Option.ne_none_iff_exists'.1 h
  simp only [viewElement?, Option.bind_eq_bind, Option.bind_eq_some_iff, Option.pure_def] at hc
  obtain ⟨r1, h1, r2, h2, ⟨name, r3⟩, h3, h4⟩ := hc
  have suffix : trimLeft r3 <:+ cs :=
    (List.dropWhile_suffix _).trans <| (suffix_of_name? h3).trans <| (suffix_of_dropBlanks? h2).trans <|
      suffix_of_dropWord? h1
  split at h4
  · next ends =>
    obtain ⟨front, rfl⟩ := suffix
    rcases ends with e | e
    · exact .inl (by simp [e])
    · exact .inr (by simp [e])
  · cases h4

variable {s : Statement}

theorem pushes_viewClause (last : s.text.getLast? ≠ some '\n') :
    (viewClause s).pushes s.opens = (s.opens && !(viewClause s).isFrameless) ∧ viewClause s ≠ .close := by
  rcases viewClause_cases s with ⟨_, _, _, e, _⟩ | ⟨_, e, directive⟩ | ⟨_, _, e, _⟩ | ⟨_, e, _⟩ | ⟨_, _, _, e, _⟩ | e
  all_goals rw [e]; refine ⟨?_, by simp⟩
  · simp [Clause.pushes, Clause.isFrameless]
  · have opens : s.opens = true := by
      rw [Statement.opens, (getLast?_of_viewElement? directive).resolve_right last]
      rfl
    simp [Clause.pushes, Clause.isFrameless, opens]
  · simp [Clause.pushes, Clause.isFrameless]
  · simp [Clause.pushes, Clause.isFrameless]
  · simp [Clause.pushes, Clause.isFrameless]
  · simp [Clause.pushes, Clause.isFrameless]

theorem pushes_modelClause (s : Statement) :
    (modelClause s).pushes s.opens = (s.opens && !(modelClause s).isFrameless) ∧ modelClause s ≠ .close := by
  rcases modelClause_cases s with ⟨_, _, _, _, e, _⟩ | ⟨_, e⟩ | ⟨_, _, _, e⟩ | e
  all_goals rw [e]; simp [Clause.pushes, Clause.isFrameless]

/-- Only a frameless clause fails to push where its statement ends in a brace, and none pushes elsewhere. -/
theorem pushes_classify (notClose : s.isClose = false) (last : s.text.getLast? ≠ some '\n') (inViews : Bool) :
    (classify s inViews).pushes s.opens = (s.opens && !(classify s inViews).isFrameless) ∧
      classify s inViews ≠ .close := by
  have section_ : ∀ {name : List Char}, (s.opens && s.body == name) = true → s.opens = true := fun both =>
    (Bool.and_eq_true_iff.1 both).1
  rw [classify, if_neg (by simp [notClose])]
  split
  · next both => simp [Clause.pushes, Clause.isFrameless, section_ both]
  · split
    · next both => simp [Clause.pushes, Clause.isFrameless, section_ both]
    · split
      · next both => simp [Clause.pushes, Clause.isFrameless, section_ both]
      · split
        · simp [Clause.pushes, Clause.isFrameless]
        · cases inViews with
          | true => exact pushes_viewClause last
          | false => exact pushes_modelClause s

namespace Builder

variable {ids : IdSource} {b : Builder}

theorem stack_pushIf (b : Builder) (opens : Bool) (f : Frame) :
    (b.pushIf opens f).stack = if opens then f :: b.stack else b.stack := by
  cases opens <;> rfl

theorem stack_onPosition (b : Builder) (x y : Numeral) : (b.onPosition x y).stack = b.stack := by
  unfold onPosition
  split <;> rfl

theorem stack_onViewTitle (b : Builder) (title : List Char) : (b.onViewTitle title).stack = b.stack := by
  unfold onViewTitle
  split <;> rfl

theorem stack_onRelationship (b : Builder) (line : Nat) (source : Option (List Char)) (target rest : List Char) :
    (b.onRelationship line source target rest).stack = b.stack := by
  unfold onRelationship
  split <;> rfl

theorem stack_onWorkspace (b : Builder) (opens : Bool) (rest : List Char) :
    (b.onWorkspace opens rest).stack = if opens then .workspace :: b.stack else b.stack := by
  rw [onWorkspace, stack_pushIf]
  cases b.heading <;> rfl

theorem stack_handle (ids : IdSource) (b : Builder) (s : Statement) {c : Clause} (h : c ≠ .close) :
    ∃ f, (b.handle ids s c).stack = if c.pushes s.opens then f :: b.stack else b.stack := by
  cases c with
  | close => exact absurd rfl h
  | workspace rest => exact ⟨_, stack_onWorkspace b s.opens rest⟩
  | model => exact ⟨_, rfl⟩
  | views => exact ⟨_, rfl⟩
  | styles => exact ⟨_, rfl⟩
  | element identifier kind name rest => exact ⟨_, rfl⟩
  | group name => exact ⟨_, rfl⟩
  | relationship source target rest => exact ⟨.block, stack_onRelationship b s.line source target rest⟩
  | view kind anchor rest => exact ⟨_, rfl⟩
  | viewElement identifier => exact ⟨_, rfl⟩
  | elementPosition identifier x y => exact ⟨.block, rfl⟩
  | position x y => exact ⟨.block, stack_onPosition b x y⟩
  | viewTitle title => exact ⟨.block, stack_onViewTitle b title⟩
  | unknown => exact ⟨_, stack_pushIf b s.opens .block⟩

/-- The statement ends in a brace, and no frame is pushed for its block. -/
def dropsBlock (b : Builder) (s : Statement) : Bool :=
  !b.isSkipping && s.opens && (classify s b.inViews).isFrameless

theorem stack_feed_close (ids : IdSource) (b : Builder) (h : s.isClose = true) :
    (b.feed ids s).stack = b.stack.tail := by
  rw [feed_close ids b h]

/-- A statement pushes a frame if it ends in a brace, unless it drops its block. -/
theorem stack_feed (ids : IdSource) (b : Builder) (notClose : s.isClose = false)
    (last : s.text.getLast? ≠ some '\n') :
    ∃ f, (b.feed ids s).stack = if s.opens && !b.dropsBlock s then f :: b.stack else b.stack := by
  cases skipping : b.isSkipping with
  | true =>
    refine ⟨.block, ?_⟩
    rw [feed_skipped ids notClose skipping, stack_pushIf]
    simp [dropsBlock, skipping]
  | false =>
    obtain ⟨pushes, ne⟩ := pushes_classify notClose last b.inViews
    obtain ⟨f, hf⟩ := stack_handle ids b s ne
    refine ⟨f, ?_⟩
    have same : (s.opens && !b.dropsBlock s) = (s.opens && !(classify s b.inViews).isFrameless) := by
      rw [dropsBlock, skipping]
      cases s.opens <;> rfl
    rw [feed_handled ids notClose skipping, hf, pushes, same]

theorem stack_feed_opens (ids : IdSource) (opens : s.opens = true) (last : s.text.getLast? ≠ some '\n')
    (keeps : b.dropsBlock s = false) : ∃ f, (b.feed ids s).stack = f :: b.stack := by
  obtain ⟨f, hf⟩ := stack_feed ids b (not_isClose_of_opens opens) last
  exact ⟨f, by rw [hf, opens, keeps]; rfl⟩

theorem stack_feed_plain (ids : IdSource) (b : Builder) (notClose : s.isClose = false) (opens : s.opens = false)
    (last : s.text.getLast? ≠ some '\n') : (b.feed ids s).stack = b.stack := by
  obtain ⟨f, hf⟩ := stack_feed ids b notClose last
  rw [hf, opens]
  rfl

/-! ## Runs -/

/-- None of the statements drops its block where it stands. -/
def keepsBlocks (ids : IdSource) : Builder → List Statement → Bool
  | _, [] => true
  | b, s :: ss => !b.dropsBlock s && keepsBlocks ids (b.feed ids s) ss

theorem keepsBlocks_append {ss ts : List Statement} :
    b.keepsBlocks ids (ss ++ ts) = (b.keepsBlocks ids ss && (b.feedAll ids ss).keepsBlocks ids ts) := by
  induction ss generalizing b with
  | nil => rfl
  | cons s ss ih =>
    rw [List.cons_append, keepsBlocks, keepsBlocks, ih, Bool.and_assoc]
    rfl

theorem feedAll_concat (ids : IdSource) (b : Builder) (ss : List Statement) (s : Statement) :
    b.feedAll ids (ss ++ [s]) = (b.feedAll ids ss).feed ids s := by
  rw [feedAll_append]
  rfl

/-- Where blocks open and close among themselves, the frames are those from before. -/
theorem stack_nested {ss : List Statement} (nested : IsNested ss) (keeps : b.keepsBlocks ids ss = true)
    (last : ∀ s ∈ ss, s.text.getLast? ≠ some '\n') : (b.feedAll ids ss).stack = b.stack := by
  induction nested generalizing b with
  | nil => rfl
  | @plain s ss notClose opens _ ih =>
    obtain ⟨_, later⟩ := Bool.and_eq_true_iff.1 keeps
    exact (ih later fun t ht => last t (List.mem_cons_of_mem _ ht)).trans
      (stack_feed_plain ids b notClose opens (last s List.mem_cons_self))
  | @block s t inner ss opens _ closes _ ihInner ih =>
    obtain ⟨lastS, lastRest⟩ := List.forall_mem_cons.1 last
    obtain ⟨lastInner, lastRest⟩ := List.forall_mem_append.1 lastRest
    obtain ⟨first, rest⟩ := Bool.and_eq_true_iff.1 keeps
    rw [keepsBlocks_append, Bool.and_eq_true_iff] at rest
    obtain ⟨keepsInner, keepsRest⟩ := rest
    obtain ⟨_, keepsRest⟩ := Bool.and_eq_true_iff.1 keepsRest
    obtain ⟨f, opened⟩ := stack_feed_opens ids opens lastS (by simpa using first)
    have inside := ihInner keepsInner lastInner
    have closed := stack_feed_close ids ((b.feed ids s).feedAll ids inner) closes
    calc (b.feedAll ids (s :: (inner ++ t :: ss))).stack
        = ((((b.feed ids s).feedAll ids inner).feed ids t).feedAll ids ss).stack := by
          rw [← feedAll_concat, ← feedAll_append, List.append_assoc]
          rfl
      _ = (((b.feed ids s).feedAll ids inner).feed ids t).stack :=
          ih keepsRest fun u hu => lastRest u (List.mem_cons_of_mem _ hu)
      _ = b.stack := by rw [closed, inside, opened, List.tail_cons]

theorem length_stack_feed (ids : IdSource) (last : s.text.getLast? ≠ some '\n') (keeps : b.dropsBlock s = false) :
    (b.feed ids s).stack.length = s.depthBehind b.stack.length := by
  cases close : s.isClose with
  | true =>
    rw [stack_feed_close ids b close, List.length_tail, Statement.depthBehind, if_pos close]
  | false =>
    obtain ⟨f, hf⟩ := stack_feed ids b close last
    rw [hf, keeps, Statement.depthBehind, close]
    cases s.opens <;> rfl

end Builder

open Builder

/-- The frames of a run follow its braces: there are as many as blocks are open, and the brace that closes
a block takes the frame that was pushed for it. -/
structure FollowsBraces (ids : IdSource) (drawn : Nat) (ss : List Statement) : Prop where
  count : ∀ before after, ss = before ++ after → (feedAll ids { drawn } before).stack.length = openBlocks before
  closes : ∀ before s inner t after, ss = before ++ s :: (inner ++ t :: after) → s.opens = true → IsNested inner →
    t.isClose = true →
      ∃ f, (feedAll ids { drawn } (before ++ [s])).stack = f :: (feedAll ids { drawn } before).stack ∧
        (feedAll ids { drawn } (before ++ s :: inner)).stack = f :: (feedAll ids { drawn } before).stack ∧
        (feedAll ids { drawn } (before ++ s :: (inner ++ [t]))).stack = (feedAll ids { drawn } before).stack

variable {ids : IdSource} {drawn : Nat} {ss : List Statement}

theorem count_of_keepsBlocks (last : ∀ s ∈ ss, s.text.getLast? ≠ some '\n')
    (keeps : keepsBlocks ids { drawn } ss = true) :
    (feedAll ids { drawn } ss).stack.length = openBlocks ss := by
  induction ss using List.reverseRecOn with
  | nil => rfl
  | append_singleton ss s ih =>
    rw [keepsBlocks_append, Bool.and_eq_true_iff] at keeps
    obtain ⟨earlier, lastS⟩ := List.forall_mem_append.1 last
    have kept : (feedAll ids { drawn } ss).dropsBlock s = false := by simpa [keepsBlocks] using keeps.2
    rw [feedAll_concat, openBlocks_concat, length_stack_feed ids (lastS s List.mem_cons_self) kept,
      ih earlier keeps.1]

/-- Behind a statement that drops its block a frame is missing. -/
theorem keepsBlocks_of_count (last : ∀ s ∈ ss, s.text.getLast? ≠ some '\n')
    (count : ∀ before after, ss = before ++ after →
      (feedAll ids { drawn } before).stack.length = openBlocks before) :
    keepsBlocks ids { drawn } ss = true := by
  induction ss using List.reverseRecOn with
  | nil => rfl
  | append_singleton ss s ih =>
    obtain ⟨earlier, lastS⟩ := List.forall_mem_append.1 last
    have kept := ih earlier fun before after split => count before (after ++ [s]) (by rw [split, List.append_assoc])
    rw [keepsBlocks_append, kept, Bool.true_and, keepsBlocks, keepsBlocks, Bool.and_true, Bool.not_eq_true']
    refine Bool.eq_false_iff.2 fun drops => ?_
    have opens : s.opens = true := (Bool.and_eq_true_iff.1 (Bool.and_eq_true_iff.1 drops).1).2
    obtain ⟨f, hf⟩ := stack_feed ids (feedAll ids { drawn } ss) (not_isClose_of_opens opens)
      (lastS s List.mem_cons_self)
    have before := count ss [s] rfl
    have behind := count (ss ++ [s]) [] (List.append_nil _).symm
    rw [feedAll_concat, hf, opens, drops, openBlocks_concat, depthBehind_opens opens, ← before] at behind
    exact absurd behind (Nat.ne_of_lt (Nat.lt_succ_self _))

/-- The frames follow the braces just if no statement drops its block. -/
theorem followsBraces_iff (tokens : ∀ s ∈ ss, ∃ text, s ∈ tokenize text) :
    FollowsBraces ids drawn ss ↔ keepsBlocks ids { drawn } ss = true := by
  have last : ∀ s ∈ ss, s.text.getLast? ≠ some '\n' := fun s hs =>
    let ⟨_, known⟩ := tokens s hs
    getLast?_of_mem_tokenize known
  constructor
  · exact fun follows => keepsBlocks_of_count last follows.count
  · intro keeps
    constructor
    · rintro before after rfl
      rw [keepsBlocks_append, Bool.and_eq_true_iff] at keeps
      exact count_of_keepsBlocks (List.forall_mem_append.1 last).1 keeps.1
    · rintro before s inner t after rfl opens nested closes
      obtain ⟨_, lastBlock⟩ := List.forall_mem_append.1 last
      obtain ⟨lastS, lastRest⟩ := List.forall_mem_cons.1 lastBlock
      obtain ⟨lastInner, _⟩ := List.forall_mem_append.1 lastRest
      rw [keepsBlocks_append, keepsBlocks, keepsBlocks_append] at keeps
      obtain ⟨_, keeps⟩ := Bool.and_eq_true_iff.1 keeps
      obtain ⟨keepsS, keeps⟩ := Bool.and_eq_true_iff.1 keeps
      obtain ⟨keepsInner, _⟩ := Bool.and_eq_true_iff.1 keeps
      obtain ⟨f, opened⟩ := stack_feed_opens ids opens lastS (by simpa using keepsS)
      have inside := (stack_nested nested keepsInner lastInner).trans opened
      refine ⟨f, ?_, ?_, ?_⟩
      · rw [feedAll_concat]
        exact opened
      · rw [feedAll_append]
        exact inside
      · rw [← List.cons_append, ← List.append_assoc, feedAll_concat, stack_feed_close ids _ closes, feedAll_append]
        exact congrArg List.tail inside

/-- Two containers of a system with a relationship between them, which has a block of its own. -/
def taggedCall (call : String) : String :=
  "workspace \"W\" \x7b\nmodel \x7b\nshop = softwareSystem \"Shop\" \x7b\n" ++
    "web = container \"Web\"\napi = container \"Api\"\n" ++ call ++ "db = container \"Db\"\n\x7d\n\x7d\n\x7d"

def callInABlock : String := taggedCall "web -> api \"Calls\" \x7b\ntags \"Internal\"\n\x7d\n"

def callOnALine : String := taggedCall "web -> api \"Calls\"\n"

theorem followsBraces_callOnALine : FollowsBraces IdSource.strokes 0 (tokenize callOnALine) :=
  (followsBraces_iff fun _ hs => ⟨callOnALine, hs⟩).2 (by decide +kernel)

/-- The block of the call takes the frame of the system away. -/
theorem not_followsBraces_callInABlock : ¬ FollowsBraces IdSource.strokes 0 (tokenize callInABlock) := by
  intro follows
  have count := follows.count ((tokenize callInABlock).take 6) _ (List.take_append_drop 6 _).symm
  revert count
  decide +kernel

end Blueprint.Dsl
