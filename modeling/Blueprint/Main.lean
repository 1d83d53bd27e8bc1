/-
  Blueprint.Main — the command line (`main`, with `_read` and `_write`).

  Reads the file that a task names, runs the task on it, writes the file that comes of it, and prints
  one line. A command line that asks for nothing ends with code 2 and says nothing; after an accident
  the error stream says that there is no answer, and the code is 1.
-/

import Blueprint.Command.Run
import Blueprint.Identifier.Seeded

namespace Blueprint

/-- The system's number for an error may come negated. -/
def troubleOf? : IO.Error → Option FileTrouble
  | .noFileOrDirectory .. => some .missing
  | .inappropriateType _ code _ =>
    if code = 20 || 0 - code = 20 then some .notDirectory else some .isDirectory
  | .alreadyExists .. => some .occupied
  | .invalidArgument _ code _ => if code = 36 || 0 - code = 36 then some .nameTooLong else none
  | _ => none

/-- A path as the system takes it. -/
def systemPath (path : String) : String := (Text.characters? path).elim path String.ofList

/-- The text of a file, or what went wrong with reading it as far as a task has an answer for that. -/
def readInput (path : String) : IO (Except Accident String) := do
  match ← (IO.FS.readBinFile (if path = "" then "." else systemPath path)).toBaseIO with
  | .ok bytes => return (Content.ofBytes (bytes.toList.map (·.toNat))).input
  | .error e =>
    match troubleOf? e with
    | some trouble => return .error (.fileTrouble trouble path)
    | none => throw e

def randomSeed : IO Nat := do
  let bytes ← IO.getRandomBytes 16
  return bytes.toList.foldl (fun n b => n * 256 + b.toNat) 0

def noAnswer : IO UInt32 := do
  IO.eprintln "the task came to no answer"
  return 1

/-- Runs a command line and gives its exit code. -/
def commandLine (args : List String) : IO UInt32 := do
  match Task.ofArguments? (args.map fun word => Text.saying word.toList) with
  | none => return 2
  | some task =>
    let ids := IdSource.seeded (← randomSeed)
    match task.run ids (← readInput task.path) with
    | .error _ => noAnswer
    | .ok result =>
      if let some (file, text) := result.written then
        match Text.characters? text with
        | none => return (← noAnswer)
        | some cs => IO.FS.writeFile (systemPath file) (String.ofList cs)
      IO.print result.line
      return result.code.toUInt32

end Blueprint

def main (args : List String) : IO UInt32 := Blueprint.commandLine args
