/-
  Blueprint.Command.Task — what a command line asks for (the arguments of `main` in the command line
  tool).

  Flags for more talk may come first, then the name of a task, then one path and, for every task but
  `check`, options for where to write. An option may be shortened as long as it stays the only one that
  begins so, and its value may follow it or be part of it. A word that begins with a hyphen and is no
  option is a path only if it is a number or has a space in it. Behind two hyphens every word is a
  path. A command line of any other form asks for nothing.
-/

import Blueprint.Text.Digit
import Blueprint.Text.Line

namespace Blueprint

open Text

inductive Task where
  | parse (path : String) (output : Option String)
  | generate (path : String) (output : Option String)
  | format (path : String) (output : Option String)
  | check (path : String)
  deriving DecidableEq, Repr

namespace Task

/-! ## Words -/

/-- What a word is to a task. -/
inductive Word where
  | plain
  | output (value : Option String)
  | useless
  deriving DecidableEq, Repr

/-- A number with a minus, in digits with or without a point. -/
def isNegativeNumber (cs : List Char) : Bool :=
  match cs with
  | '-' :: cs =>
    let rest := dropFinalLineFeed cs
    match rest.dropWhile isDigit with
    | [] => !rest.isEmpty
    | '.' :: ds => !ds.isEmpty && ds.all isDigit
    | _ => false
  | _ => false

/-- A word before its first equals sign, and what is behind that. -/
def splitValue (cs : List Char) : List Char × Option String :=
  match cs.dropWhile (· != '=') with
  | _ :: value => (cs.takeWhile (· != '='), some (String.ofList value))
  | [] => (cs, none)

/-- Words that are no options. -/
def otherWord (cs : List Char) : Word :=
  if isNegativeNumber cs || cs.contains ' ' then .plain else .useless

/-- A word with two hyphens, where `hasOutput` says that there is an option besides the one for help. -/
def longWord (hasOutput : Bool) (cs : List Char) : Word :=
  let (stem, value) := splitValue cs
  let isHelp := stem.isPrefixOf "--help".toList
  let isOutput := hasOutput && stem.isPrefixOf "--output".toList
  if isHelp then .useless else if isOutput then .output value else otherWord cs

def shortWord (hasOutput : Bool) (cs : List Char) : Word :=
  match cs with
  | '-' :: 'h' :: _ => .useless
  | '-' :: 'o' :: rest =>
    if !hasOutput then otherWord cs
    else match rest with
      | [] => .output none
      | '=' :: value => .output (some (String.ofList value))
      | _ => .output (some (String.ofList rest))
  | _ => otherWord cs

def wordOf (hasOutput : Bool) (s : String) : Word :=
  match s.toList with
  | '-' :: '-' :: cs => longWord hasOutput ('-' :: '-' :: cs)
  | '-' :: c :: cs => shortWord hasOutput ('-' :: c :: cs)
  | _ => .plain

/-! ## Arguments of a task -/

structure Arguments where
  path : Option String := none
  output : Option String := none
  /-- The last word was the path. -/
  afterPath : Bool := false

/-- The path and the output that the words give; `Arguments` are those of the words before. -/
def readArguments (hasOutput : Bool) (a : Arguments) : List String → Option (String × Option String)
  | [] => a.path.map (·, a.output)
  | s :: rest =>
    if s = "--" then
      match a.path, rest with
      | none, [path] => some (path, a.output)
      | some path, [] => if a.afterPath then some (path, a.output) else none
      | _, _ => none
    else match wordOf hasOutput s with
      | .useless => none
      | .plain => if a.path.isSome then none else readArguments hasOutput { a with path := some s, afterPath := true } rest
      | .output (some value) => readArguments hasOutput { a with output := some value, afterPath := false } rest
      | .output none =>
        match rest with
        | value :: rest =>
          if value != "--" && wordOf hasOutput value == .plain then
            readArguments hasOutput { a with output := some value, afterPath := false } rest
          else none
        | [] => none

/-- An empty output is none. -/
def outputTask (make : String → Option String → Task) (args : List String) : Option Task :=
  (readArguments true {} args).map fun a => make a.1 (a.2.filter (· != ""))

/-- Asks for more talk: `-v`, any number of times in one word, the first time perhaps with an equals
sign, or its long form, shortened or not. -/
def isVerbose (s : String) : Bool :=
  match s.toList with
  | '-' :: 'v' :: '=' :: cs => !cs.isEmpty && cs.all (· == 'v')
  | '-' :: 'v' :: cs => cs.all (· == 'v')
  | cs => "--v".toList.isPrefixOf cs && cs.isPrefixOf "--verbose".toList

def ofArguments? (args : List String) : Option Task :=
  match args.dropWhile isVerbose with
  | "parse" :: rest => outputTask .parse rest
  | "generate" :: rest => outputTask .generate rest
  | "format" :: rest => outputTask .format rest
  | "check" :: rest => (readArguments false {} rest).map fun a => .check a.1
  | _ => none

def path : Task → String
  | parse path _ | generate path _ | format path _ | check path => path

end Task

end Blueprint
