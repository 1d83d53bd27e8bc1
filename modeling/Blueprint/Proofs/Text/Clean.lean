/-
  Blueprint.Proofs.Text.Clean — texts that can be written in quotes and read again.

  A text is clean if it has no backslash and no line boundary but line feeds. Escaping turns its quotes
  and line feeds into pairs behind a backslash, so every backslash of what is written belongs to a pair.

  Proved: a clean text is safe (`IsClean.isSafe`), so that it is read back from its quotes
  (`closeQuote_escape`, `unescape_escape`), and stands on one line (`unbroken_quote`).
-/

import Blueprint.Proofs.Text.Safe
import Blueprint.Text.Line

namespace Blueprint.Text

def IsClean (cs : List Char) : Prop := ∀ c ∈ cs, c ≠ '\\' ∧ (isLineBoundary c = true → c = '\n')

/-- The text stands on one line. -/
def IsUnbroken (cs : List Char) : Prop := ∀ c ∈ cs, isLineBoundary c = false

instance (cs : List Char) : Decidable (IsClean cs) := List.decidableBAll _ cs

instance (cs : List Char) : Decidable (IsUnbroken cs) := List.decidableBAll _ cs

/-- A character of a class is none outside it. -/
theorem ne_of_class {isOfClass : Char → Bool} {c d : Char} (hc : isOfClass c = true) (hd : isOfClass d = false) :
    c ≠ d := by
  rintro rfl
  rw [hc] at hd
  cases hd

theorem IsClean.tail {c : Char} {cs : List Char} (h : IsClean (c :: cs)) : IsClean cs :=
  fun d hd => h d (List.mem_cons_of_mem _ hd)

theorem IsClean.head {c : Char} {cs : List Char} (h : IsClean (c :: cs)) :
    c ≠ '\\' := (h c List.mem_cons_self).1

@[simp] theorem isUnbroken_nil : IsUnbroken [] := fun _ h => by cases h

@[simp] theorem isUnbroken_cons {c : Char} {cs : List Char} :
    IsUnbroken (c :: cs) ↔ isLineBoundary c = false ∧ IsUnbroken cs := List.forall_mem_cons

@[simp] theorem isUnbroken_append {cs ds : List Char} : IsUnbroken (cs ++ ds) ↔ IsUnbroken cs ∧ IsUnbroken ds :=
  List.forall_mem_append

/-! ## In quotes -/

theorem IsClean.isSafe {cs : List Char} (h : IsClean cs) : IsSafe cs := by
  have noMark : '\\' ∉ cs := fun mark => (h _ mark).1 rfl
  refine ⟨fun pair => noMark (pair.subset List.mem_cons_self), fun before after split => ?_, ?_⟩
  · exact even_marksAtEnd_of_not_mem fun mark => noMark (split ▸ List.mem_append_left _ mark)
  · exact even_marksAtEnd_of_not_mem noMark

theorem unescape_escape {cs : List Char} (h : IsClean cs) : unescape (escape cs) = cs :=
  unescape_escape_iff.2 h.isSafe.noPair

theorem closeQuote_escape {cs : List Char} (h : IsClean cs) (rest : List Char) :
    closeQuote? (escape cs ++ '"' :: rest) = some (escape cs, rest) :=
  closeQuote_escape_iff.2 (isSafe_iff.1 h.isSafe).2

/-! ## One line -/

theorem unbroken_escape {cs : List Char} (h : IsClean cs) : IsUnbroken (escape cs) := by
  fun_induction escape cs with
  | case1 => exact isUnbroken_nil
  | case2 cs ih => exact isUnbroken_cons.2 ⟨rfl, isUnbroken_cons.2 ⟨rfl, ih h.tail⟩⟩
  | case3 cs ih => exact isUnbroken_cons.2 ⟨rfl, isUnbroken_cons.2 ⟨rfl, ih h.tail⟩⟩
  | case4 c cs _ notFeed ih =>
    have unbroken : isLineBoundary c = false :=
      Bool.eq_false_iff.2 fun boundary => notFeed ((h c List.mem_cons_self).2 boundary)
    exact isUnbroken_cons.2 ⟨unbroken, ih h.tail⟩

theorem unbroken_quote {cs : List Char} (h : IsClean cs) : IsUnbroken (quote cs) :=
  isUnbroken_cons.2 ⟨rfl, isUnbroken_append.2 ⟨unbroken_escape h, by decide⟩⟩

end Blueprint.Text
