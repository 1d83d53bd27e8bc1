/-
  Blueprint.Text.Quoted — text in double quotes (`escape`, `_unescape` and the pattern `QUOTED`).

  `escape` writes a quote as a backslash and a quote, and a line feed as a backslash and `n`; a
  backslash itself is written as it is. `unescape` undoes just those two pairs. A quoted text runs
  from its opening quote to the next quote that no backslash takes along; a backslash takes the
  character behind it, which may be anything but a line feed, and a quoted text without a closing
  quote is none. `quotedBodies` finds the quoted texts of a line from left to right and looks again
  one character later where an opening quote is never closed.

  Proved: what is behind a quoted text is strictly shorter (`length_of_closeQuote`).
-/

namespace Blueprint.Text

def escape : List Char → List Char
  | [] => []
  | '"' :: cs => '\\' :: '"' :: escape cs
  | '\n' :: cs => '\\' :: 'n' :: escape cs
  | c :: cs => c :: escape cs

def unescape : List Char → List Char
  | [] => []
  | '\\' :: '"' :: cs => '"' :: unescape cs
  | '\\' :: 'n' :: cs => '\n' :: unescape cs
  | c :: cs => c :: unescape cs

def quote (cs : List Char) : List Char := '"' :: (escape cs ++ ['"'])

/-- Behind an opening quote: the text up to the closing one, as written, and what follows it. -/
def closeQuote? : List Char → Option (List Char × List Char)
  | [] => none
  | '"' :: cs => some ([], cs)
  | ['\\'] => none
  | '\\' :: c :: cs => if c = '\n' then none else (closeQuote? cs).map fun p => ('\\' :: c :: p.1, p.2)
  | c :: cs => (closeQuote? cs).map fun p => (c :: p.1, p.2)

theorem length_of_closeQuote {cs body rest : List Char} (h : closeQuote? cs = some (body, rest)) :
    rest.length < cs.length := by
  fun_induction closeQuote? cs generalizing body rest with
  | case1 => simp at h
  | case2 cs => cases h; simp
  | case3 => simp at h
  | case4 => simp at h
  | case5 c cs _ ih =>
    obtain ⟨⟨b, r⟩, hp, he⟩ := Option.map_eq_some_iff.1 h
    cases he
    have := ih hp
    simp only [List.length_cons]
    omega
  | case6 c cs _ _ _ ih =>
    obtain ⟨⟨b, r⟩, hp, he⟩ := Option.map_eq_some_iff.1 h
    cases he
    have := ih hp
    simp only [List.length_cons]
    omega

/-- The quoted texts of a line, as written. -/
def quotedBodies (cs : List Char) : List (List Char) :=
  match cs with
  | [] => []
  | c :: cs =>
    if c = '"' then
      match _h : closeQuote? cs with
      | some (body, rest) => body :: quotedBodies rest
      | none => quotedBodies cs
    else quotedBodies cs
termination_by cs.length
decreasing_by
  · have := length_of_closeQuote _h; simp only [List.length_cons]; omega
  · simp
  · simp

end Blueprint.Text
