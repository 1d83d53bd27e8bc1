/-
  Blueprint.Text.Half — halves of characters.

  A character beyond the first plane can be written in two halves, and a half may also be written
  alone. A text holds characters only, so a half that stands alone is kept as a character of the
  thirteenth plane. A character of that very range then has a mark before it, and so has the mark
  itself. The code points of a text are what it says; it can always be shown, but there is no UTF-8 for
  a half.

  Proved: every row of code points is said by a text (`points_ofPoints`), and from the text of some
  characters these can be read again (`characters?_saying`).
-/

namespace Blueprint.Text

def isHalf (n : Nat) : Bool := 0xD800 ≤ n && n < 0xE000

/-- Says that the next character stands for itself. With nothing behind it, it says nothing. -/
def mark : Char := Char.ofNat 0xD0800

/-- The text of a code point. -/
def ofPoint (n : Nat) : List Char :=
  if isHalf n then [Char.ofNat (n - 0xD800 + 0xD0000)]
  else if 0xD0000 ≤ n ∧ n ≤ 0xD0800 then [mark, Char.ofNat n]
  else [Char.ofNat n]

def ofPoints (ns : List Nat) : List Char := ns.flatMap ofPoint

/-- The code point for which a character stands without a mark before it. -/
def pointOf (c : Char) : Nat :=
  if 0xD0000 ≤ c.toNat ∧ c.toNat < 0xD0800 then c.toNat - 0xD0000 + 0xD800 else c.toNat

/-- The code points of a text. -/
def points : List Char → List Nat
  | [] => []
  | [c] => if c = mark then [] else [pointOf c]
  | c :: d :: cs => if c = mark then d.toNat :: points cs else pointOf c :: points (d :: cs)

/-- The text has whole characters only. -/
def isWhole (s : String) : Bool := (points s.toList).all (!isHalf ·)

/-- The text that says these characters. -/
def ofCharacters (cs : List Char) : List Char := ofPoints (cs.map (·.toNat))

def saying (cs : List Char) : String := String.ofList (ofCharacters cs)

/-- The characters that a text says, if it has whole ones only. -/
def characters? (s : String) : Option (List Char) :=
  if isWhole s then some ((points s.toList).map Char.ofNat) else none

/-! ## Small facts -/

theorem toNat_ofNat {n : Nat} (h : n.isValidChar) : (Char.ofNat n).toNat = n := by
  rw [Char.ofNat, dif_pos h]
  rfl

theorem isValidChar_of_not_isHalf {n : Nat} (bound : n < 0x110000) (h : isHalf n = false) : n.isValidChar := by
  simp only [isHalf, Bool.and_eq_false_iff, decide_eq_false_iff_not] at h
  rcases h with h | h
  · exact .inl (by omega)
  · exact .inr ⟨by omega, by omega⟩

theorem ne_mark_of_toNat {c : Char} (h : c.toNat ≠ 0xD0800) : c ≠ mark := by
  intro e
  exact h (by rw [e]; rfl)

theorem points_cons {c : Char} (h : c ≠ mark) (cs : List Char) : points (c :: cs) = pointOf c :: points cs := by
  cases cs with
  | nil => simp only [points, h, if_false]
  | cons d cs => simp only [points, h, if_false]

theorem points_mark (c : Char) (cs : List Char) : points (mark :: c :: cs) = c.toNat :: points cs := by
  simp only [points, if_true]

theorem points_ofPoint_append {n : Nat} (bound : n < 0x110000) (cs : List Char) :
    points (ofPoint n ++ cs) = n :: points cs := by
  by_cases half : isHalf n = true
  · have bounds := half
    simp only [isHalf, Bool.and_eq_true, decide_eq_true_eq] at bounds
    have value : (Char.ofNat (n - 0xD800 + 0xD0000)).toNat = n - 0xD800 + 0xD0000 :=
      toNat_ofNat (.inr ⟨by omega, by omega⟩)
    rw [ofPoint, if_pos half, List.singleton_append, points_cons (ne_mark_of_toNat (by omega)), pointOf,
      if_pos (by omega), value]
    exact congrArg (· :: points cs) (by omega)
  · have value : (Char.ofNat n).toNat = n := toNat_ofNat (isValidChar_of_not_isHalf bound (by simpa using half))
    by_cases near : 0xD0000 ≤ n ∧ n ≤ 0xD0800
    · rw [ofPoint, if_neg half, if_pos near, List.cons_append, List.singleton_append, points_mark, value]
    · rw [ofPoint, if_neg half, if_neg near, List.singleton_append, points_cons (ne_mark_of_toNat (by omega)), pointOf,
        if_neg (by omega), value]

theorem points_ofPoints {ns : List Nat} (bound : ∀ n ∈ ns, n < 0x110000) : points (ofPoints ns) = ns := by
  induction ns with
  | nil => rfl
  | cons n ns ih =>
    rw [ofPoints, List.flatMap_cons, points_ofPoint_append (bound n (by simp))]
    exact congrArg _ (ih fun m hm => bound m (List.mem_cons_of_mem _ hm))

theorem toNat_lt (c : Char) : c.toNat < 0x110000 := by
  rcases c.valid with h | h
  · exact Nat.lt_trans h (by decide)
  · exact h.2

theorem isHalf_toNat (c : Char) : isHalf c.toNat = false := by
  simp only [isHalf, Bool.and_eq_false_iff, decide_eq_false_iff_not]
  rcases c.valid with h | h
  · exact .inl (Nat.not_le.2 h)
  · exact .inr (Nat.not_lt.2 h.1)

theorem points_ofCharacters (cs : List Char) : points (ofCharacters cs) = cs.map (·.toNat) := by
  refine points_ofPoints fun n hn => ?_
  obtain ⟨c, _, rfl⟩ := List.mem_map.1 hn
  exact toNat_lt c

theorem characters?_saying (cs : List Char) : characters? (saying cs) = some cs := by
  have whole : isWhole (saying cs) = true := by
    simp [isWhole, saying, points_ofCharacters, isHalf_toNat]
  rw [characters?, if_pos whole, saying, String.toList_ofList, points_ofCharacters, List.map_map, Option.some.injEq]
  refine (List.map_congr_left fun c _ => ?_).trans (List.map_id cs)
  exact Char.ofNat_toNat c

end Blueprint.Text
