/-
  Blueprint.Text.Infix — one text somewhere in another.

  Proved: `isInfix` decides exactly that (`isInfix_iff`).
-/

namespace Blueprint.Text

def isInfix (needle : List Char) : List Char → Bool
  | [] => needle.isEmpty
  | c :: cs => needle.isPrefixOf (c :: cs) || isInfix needle cs

theorem isInfix_iff {needle cs : List Char} : isInfix needle cs = true ↔ needle <:+: cs := by
  induction cs with
  | nil => simp [isInfix, List.isEmpty_iff]
  | cons c cs ih => rw [isInfix, Bool.or_eq_true, ih, List.isPrefixOf_iff_prefix, List.infix_cons_iff]

end Blueprint.Text
