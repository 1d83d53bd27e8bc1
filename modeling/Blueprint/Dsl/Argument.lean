/-
  Blueprint.Dsl.Argument — the quoted arguments of a statement (read by `quoted_args` and `split_tags`,
  written by `quote` and `quoted_tail`).

  Arguments stand one after the other in quotes; the last ones may be left out, so the ones at the end
  that are empty are not written. Tags stand in one argument, separated by commas.
-/

import Blueprint.Text.Blank
import Blueprint.Text.Quoted

namespace Blueprint.Dsl

open Text

/-- The quoted arguments of a text, in order. -/
def quotedArguments (cs : List Char) : List String :=
  (quotedBodies cs).map fun body => String.ofList (unescape body)

/-- Arguments without the empty ones at the end. -/
def dropEmptyEnd (values : List String) : List String := (values.reverse.dropWhile (· == "")).reverse

def quotedTail (values : List (Option String)) : List Char :=
  (dropEmptyEnd (values.map (·.getD ""))).flatMap fun v => ' ' :: quote v.toList

/-- The tags of an argument, trimmed, the empty ones left out. -/
def splitTags (value : String) : List String :=
  ((fields (· == ',') value.toList).map trim).filterMap fun t =>
    if t.isEmpty then none else some (String.ofList t)

def joinTags (tags : List String) : String := ",".intercalate tags

/-- The tag by which a document marks an element as external. -/
def externalTag : String := "External"

end Blueprint.Dsl
