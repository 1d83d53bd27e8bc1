/-
  Blueprint.Dsl.Statement — the statements of a document (`tokenize`, over `_logical_lines` and
  `_split_at_braces`).

  A document's lines are trimmed first. Block comments are dropped if they begin a line, up to the
  first end mark; a line that ends in a backslash goes on in the next one, with a space between. A
  joined line is skipped if it is empty, a directive (`!`) or a comment (`#` or `//`), but a comment
  that starts with `element ` behind its marks is read as a live line. What is left is cut at the
  braces outside quotes: an opening brace ends a statement, a closing brace is one of its own.
-/

import Blueprint.Text.Blank
import Blueprint.Text.Line

namespace Blueprint.Dsl

open Text

structure Statement where
  text : List Char
  /-- The line of the document on which it begins, from one. -/
  line : Nat
  fromComment : Bool := false
  deriving DecidableEq, Repr

namespace Statement

def opens (s : Statement) : Bool := s.text.getLast? == some '{'

/-- The statement without the brace that ends it. -/
def body (s : Statement) : List Char := if s.opens then trimRight s.text.dropLast else s.text

def isClose (s : Statement) : Bool := s.text == ['}']

end Statement

/-! ## Joined lines -/

/-- What follows the first end mark of a block comment. -/
def afterEndMark? : List Char → Option (List Char)
  | [] => none
  | '*' :: '/' :: cs => some cs
  | _ :: cs => afterEndMark? cs

/-- Reading lines: the text of a line that goes on, where it began, whether a block comment is open. -/
structure Gathering where
  pending : List Char := []
  start : Nat := 0
  inComment : Bool := false
  deriving DecidableEq, Repr

namespace Gathering

/-- The rest of a line behind an open block comment; none if the comment goes on. -/
def leaveComment (inComment : Bool) (line : List Char) : Option (List Char) :=
  if inComment then (afterEndMark? line).map trim else some line

/-- Takes in a line that is not, or no longer, part of a comment. -/
def join (g : Gathering) (number : Nat) (line : List Char) : Gathering × List (Nat × List Char) :=
  let start := if g.pending.isEmpty then number else g.start
  if line.getLast? = some '\\' then
    ({ pending := g.pending ++ trimRight line.dropLast ++ [' '], start }, [])
  else ({ start }, [(start, g.pending ++ line)])

def step (g : Gathering) (number : Nat) (raw : List Char) : Gathering × List (Nat × List Char) :=
  match leaveComment g.inComment (trim raw) with
  | none => (g, [])
  | some line =>
    match leaveComment ("/*".toList.isPrefixOf line) line with
    | none => ({ g with inComment := true }, [])
    | some line => g.join number line

/-- What is left over at the end of the document. -/
def finish (g : Gathering) : List (Nat × List Char) :=
  if g.pending.isEmpty then [] else [(g.start, trimRight g.pending)]

def run (g : Gathering) (number : Nat) : List (List Char) → List (Nat × List Char)
  | [] => g.finish
  | raw :: rest =>
    let (g, joined) := g.step number raw
    joined ++ g.run (number + 1) rest

end Gathering

/-- The joined lines of a document, with the numbers of the lines on which they begin. -/
def joinedLines (cs : List Char) : List (Nat × List Char) := ({} : Gathering).run 1 (lines cs)

/-! ## Cutting at braces -/

/-- Where a character stands with respect to quotes. -/
inductive Quoting where
  | outside
  | inside
  | escaped
  deriving DecidableEq, Repr

def Quoting.next : Quoting → Char → Quoting
  | outside, c => if c = '"' then inside else outside
  | inside, c => if c = '\\' then escaped else if c = '"' then outside else inside
  | escaped, _ => inside

/-- A part is trimmed, and none if nothing is left. -/
def part (cs : List Char) : List (List Char) :=
  let t := trim cs
  if t.isEmpty then [] else [t]

/-- The parts of a line; `current` is the part that is being read, backwards. -/
def cut (q : Quoting) (current : List Char) : List Char → List (List Char)
  | [] => part current.reverse
  | c :: cs =>
    if q = .outside ∧ c = '{' then part (c :: current).reverse ++ cut .outside [] cs
    else if q = .outside ∧ c = '}' then part current.reverse ++ ['}'] :: cut .outside [] cs
    else cut (q.next c) (c :: current) cs

def cutAtBraces (line : List Char) : List (List Char) := cut .outside [] line

/-! ## Statements -/

def dropMarks : List Char → List Char
  | '#' :: cs => dropMarks cs
  | '/' :: '/' :: cs => dropMarks cs
  | cs => cs

def isComment (line : List Char) : Bool := "#".toList.isPrefixOf line || "//".toList.isPrefixOf line

/-- The live text of a joined line, and whether it stood in a comment. -/
def live? (line : List Char) : Option (List Char × Bool) :=
  if line.isEmpty || "!".toList.isPrefixOf line then none
  else if isComment line then
    let content := trimLeft (dropMarks line)
    if "element ".toList.isPrefixOf content then some (content, true) else none
  else some (line, false)

def statementsOf (number : Nat) (line : List Char) : List Statement :=
  match live? line with
  | none => []
  | some (text, fromComment) => (cutAtBraces text).map fun t => { text := t, line := number, fromComment }

def tokenize (text : String) : List Statement :=
  (joinedLines text.toList).flatMap fun l => statementsOf l.1 l.2

/-- How many opening and how many closing braces a text has, quoted or not. -/
def braceCounts (text : String) : Nat × Nat := (text.toList.count '{', text.toList.count '}')

end Blueprint.Dsl
