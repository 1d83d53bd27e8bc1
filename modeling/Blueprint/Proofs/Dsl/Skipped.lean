/-
  Blueprint.Proofs.Dsl.Skipped — blocks whose contents are skipped (`ModelBuilder.feed`).

  A block is skipped if it means nothing or holds styles, and so is every block in it. There a statement that
  ends in a brace opens a block that means nothing, whatever it would say elsewhere, and a closing brace takes
  away the innermost frame. So the frames that are added count the blocks that are open, and as long as no more
  blocks are closed than were opened, the frame of the block itself stays below them and everything is skipped.

  Proved: what is skipped changes how many frames are added and nothing else (`feedAll_deeper`); while a skipped
  block is open nothing but frames is added, and when it is closed the builder is the one from before
  (`feedAll_skippedBlock`).
-/

import Blueprint.Proofs.Dsl.Frames
import Mathlib.Data.List.Infix

namespace Blueprint.Dsl

open Text

/-! ## Matching braces -/

/-- At no point more blocks were closed than opened, but for `n` that are open from before. -/
def ClosesWithin (n : Nat) (ss : List Statement) : Prop :=
  ∀ before, before <+: ss → before.countP (·.isClose) ≤ n + before.countP (·.opens)

/-- The blocks that are opened are closed, and no others are. -/
structure IsMatched (ss : List Statement) : Prop where
  within : ClosesWithin 0 ss
  whole : ss.countP (·.isClose) = ss.countP (·.opens)

instance (n : Nat) (ss : List Statement) : Decidable (ClosesWithin n ss) :=
  decidable_of_iff (∀ before ∈ ss.inits, before.countP (·.isClose) ≤ n + before.countP (·.opens))
    (forall_congr' fun before => imp_congr_left (List.mem_inits before ss))

instance (ss : List Statement) : Decidable (IsMatched ss) :=
  decidable_of_iff (ClosesWithin 0 ss ∧ ss.countP (·.isClose) = ss.countP (·.opens))
    ⟨fun h => ⟨h.1, h.2⟩, fun h => ⟨h.within, h.whole⟩⟩

variable {s x t : Statement} {ss : List Statement} {n m : Nat}

/-- A statement moves one brace from the list to the depth. -/
theorem depthBehind_countP (inside : s.isClose = true → n ≠ 0) (ss : List Statement) :
    s.depthBehind n + (s :: ss).countP (·.isClose) + ss.countP (·.opens) =
      n + ss.countP (·.isClose) + (s :: ss).countP (·.opens) := by
  rw [Statement.depthBehind]
  cases opens : s.opens with
  | true =>
    simp [opens, not_isClose_of_opens opens]
    omega
  | false =>
    cases close : s.isClose with
    | true =>
      have := inside close
      simp [opens, close]
      omega
    | false => simp [opens, close]

theorem ClosesWithin.inside (h : ClosesWithin n (s :: ss)) (close : s.isClose = true) : n ≠ 0 := by
  rintro rfl
  have notOpens : s.opens = false := Bool.eq_false_iff.2 fun opens => by
    rw [not_isClose_of_opens opens] at close
    cases close
  have first := h [s] ⟨ss, rfl⟩
  simp [close, notOpens] at first

theorem ClosesWithin.tail (h : ClosesWithin n (s :: ss)) : ClosesWithin (s.depthBehind n) ss := by
  intro before known
  have here := h (s :: before) (List.cons_prefix_cons.2 ⟨rfl, known⟩)
  have moved := depthBehind_countP h.inside before
  omega

namespace Builder

variable {ids : IdSource} {b : Builder}

/-! ## Where statements are skipped -/

/-- The builder inside some more blocks that mean nothing. -/
def deeper (b : Builder) (n : Nat) : Builder := { b with stack := List.replicate n .block ++ b.stack }

theorem isSkipping_deeper (skipping : b.isSkipping = true) (n : Nat) : (b.deeper n).isSkipping = true := by
  cases n with
  | zero => exact skipping
  | succ n => simp [isSkipping, deeper, List.replicate_succ]

/-- A statement that is skipped leads one block further in or out, or nowhere. -/
theorem feed_deeper (ids : IdSource) (skipping : b.isSkipping = true) (inside : s.isClose = true → n ≠ 0) :
    (b.deeper n).feed ids s = b.deeper (s.depthBehind n) := by
  rw [Statement.depthBehind]
  cases close : s.isClose with
  | true =>
    obtain ⟨k, rfl⟩ := Nat.exists_eq_succ_of_ne_zero (inside close)
    rw [feed_close ids _ close]
    rfl
  | false =>
    rw [feed_skipped ids close (isSkipping_deeper skipping n)]
    cases s.opens <;> rfl

/-- The frames that are added count the blocks that are open. -/
theorem feedAll_deeper (ids : IdSource) (skipping : b.isSkipping = true) (within : ClosesWithin n ss)
    (left : m + ss.countP (·.isClose) = n + ss.countP (·.opens)) : (b.deeper n).feedAll ids ss = b.deeper m := by
  induction ss generalizing n with
  | nil =>
    obtain rfl : m = n := left
    rfl
  | cons s ss ih =>
    have moved := depthBehind_countP within.inside ss
    calc (b.deeper n).feedAll ids (s :: ss)
        = ((b.deeper n).feed ids s).feedAll ids ss := rfl
      _ = (b.deeper (s.depthBehind n)).feedAll ids ss := by rw [feed_deeper ids skipping within.inside]
      _ = b.deeper m := ih within.tail (by omega)

/-! ## Blocks that are skipped -/

/-- The block that the statement opens is skipped: it stands among styles or right inside a block that means
nothing, or it holds styles or means nothing itself. -/
def SkipsBlock (b : Builder) (x : Statement) : Prop :=
  b.inStyles = true ∨ b.stack.head? = some .block ∨ classify x b.inViews = .unknown ∨
    classify x b.inViews = .styles

instance (b : Builder) (x : Statement) : Decidable (b.SkipsBlock x) :=
  inferInstanceAs (Decidable (_ ∨ _ ∨ _ ∨ _))

theorem SkipsBlock.feed_eq (h : b.SkipsBlock x) (opens : x.opens = true) (ids : IdSource) :
    ∃ f, b.feed ids x = b.push f ∧ (b.push f).isSkipping = true := by
  have notClose := not_isClose_of_opens opens
  have inBlock : (b.push .block).isSkipping = true := by simp [isSkipping, push]
  by_cases skipping : b.isSkipping = true
  · refine ⟨.block, ?_, inBlock⟩
    rw [feed_skipped ids notClose skipping, opens]
    rfl
  · have handled := feed_handled ids notClose (Bool.eq_false_iff.2 skipping)
    simp only [isSkipping, Bool.or_eq_true, beq_iff_eq, not_or] at skipping
    rcases h with styles | block | unknown | styles
    · exact absurd styles skipping.1
    · exact absurd block skipping.2
    · refine ⟨.block, ?_, inBlock⟩
      rw [handled, unknown, handle, opens]
      rfl
    · refine ⟨.styles, ?_, by simp [isSkipping, inStyles, push]⟩
      rw [handled, styles]
      rfl

/-- While a skipped block is open nothing but frames is added, on top of its own, and when it is closed nothing is
left of it. -/
theorem feedAll_skippedBlock (skipped : b.SkipsBlock x) (opens : x.opens = true) (matched : IsMatched ss)
    (closes : t.isClose = true) :
    (∀ before, before <+: ss →
      ∃ fs f, b.feedAll ids (x :: before) = { b with stack := fs ++ f :: b.stack }) ∧
    b.feedAll ids (x :: (ss ++ [t])) = b := by
  obtain ⟨f, opened, skipping⟩ := skipped.feed_eq opens ids
  have inside : ∀ {before m}, ClosesWithin 0 before →
      m + before.countP (·.isClose) = 0 + before.countP (·.opens) →
      b.feedAll ids (x :: before) = (b.push f).deeper m := by
    intro before m within left
    show (b.feed ids x).feedAll ids before = _
    rw [opened]
    exact feedAll_deeper ids skipping within left
  constructor
  · intro before known
    have within : ClosesWithin 0 before := fun front short => matched.within front (short.trans known)
    have enough := within before List.prefix_rfl
    refine ⟨_, f, inside within (Nat.sub_add_cancel enough)⟩
  · have whole := inside matched.within (show 0 + _ = 0 + _ by rw [matched.whole])
    rw [← List.cons_append, feedAll_concat, whole, feed_close ids _ closes]
    rfl

/-- Lines that would declare a container, a relationship, a view and a position if they stood elsewhere. -/
def leaflet : List Statement :=
  ["web = container \"Web\" \x7b", "-> shop", "\x7d", "styles \x7b", "systemLandscape \"All\" \x7b",
    "element shop 1 2", "\x7d", "\x7d"].map fun line => { text := line.toList, line := 4 }

/-- The builder right inside a software system of a model. -/
def insideShop : Builder :=
  feedAll IdSource.strokes { drawn := 0 }
    (["workspace \"W\" \x7b", "model \x7b", "shop = softwareSystem \"Shop\" \x7b"].map fun line =>
      { text := line.toList, line := 1 })

theorem feedAll_skippedBlock_leaflet :
    let properties : Statement := { text := "properties \x7b".toList, line := 3 }
    let brace : Statement := { text := ['}'], line := 5 }
    insideShop.SkipsBlock properties ∧ IsMatched leaflet ∧
      insideShop.feedAll IdSource.strokes (properties :: (leaflet ++ [brace])) = insideShop := by
  intro properties brace
  have skipped : insideShop.SkipsBlock properties := by decide +kernel
  have matched : IsMatched leaflet := by decide +kernel
  exact ⟨skipped, matched, (feedAll_skippedBlock skipped (by decide) matched rfl).2⟩

end Builder

end Blueprint.Dsl
