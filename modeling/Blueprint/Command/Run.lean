/-
  Blueprint.Command.Run — what a task answers (`cmd_parse`, `cmd_generate`, `cmd_format`, `cmd_check`).

  A task reads one file and answers with one line of JSON and an exit code: 0 if all is well, 1 if the
  file cannot be read or is refused, 2 if a check finds errors. Some tasks write a file, and some
  failures are no answer at all.
-/

import Blueprint.Command.Task
import Blueprint.Dsl.Document
import Blueprint.Dsl.Writer
import Blueprint.Json.Printer
import Blueprint.Json.Reader
import Blueprint.Schema.Model
import Blueprint.Storage.Files
import Blueprint.Validation.Report

namespace Blueprint

/-- What a task comes to: the exit code, the line that is printed, and a file to be written before. -/
structure Result where
  code : Nat
  printed : Json
  written : Option (String × String) := none

namespace Result

def refused (message : String) : Result :=
  { code := 1, printed := .obj [("status", .str "error"), ("error", .str message)] }

def unreadable (path : String) (t : FileTrouble) : Result :=
  refused ("Cannot read " ++ path ++ ": " ++ t.message)

def invalidJson : Result := refused "Invalid workspace JSON"

/-- The line as it is printed. -/
def line (r : Result) : String := r.printed.print .oneLine ++ "\n"

end Result

namespace Task

/-- Reads the workspace in JSON text; a refusal if there is none. -/
def workspaceOf (ids : IdSource) (text : String) : Except Accident (Option Workspace) :=
  match Json.read? text with
  | none => .ok none
  | some j =>
    match Workspace.read ids 0 j with
    | .ok (ws, _) => .ok (some ws)
    | .error (.accident a) => .error a
    | .error _ => .ok none

def parseText (ids : IdSource) (output : Option String) (text : String) : Result :=
  match Dsl.parse ids 0 text with
  | .error f => .refused f.message
  | .ok p =>
    let warnings := ("warnings", Json.strings p.warnings)
    match output with
    | some file =>
      { code := 0, printed := .obj [("status", .str "ok"), ("output", .str file), warnings]
        written := some (file, p.workspace.toJson.print .indented) }
    | none => { code := 0, printed := .obj [("status", .str "ok"), ("workspace", p.workspace.toJson), warnings] }

def generateText (ids : IdSource) (output : Option String) (text : String) : Except Accident Result := do
  match ← workspaceOf ids text with
  | none => return .invalidJson
  | some ws =>
    let dsl ← Dsl.document ws
    match output with
    | some file =>
      return { code := 0, printed := .obj [("status", .str "ok"), ("output", .str file)], written := some (file, dsl) }
    | none => return { code := 0, printed := .obj [("status", .str "ok"), ("dsl", .str dsl)] }

def formatText (ids : IdSource) (file text : String) : Except Accident Result :=
  match Dsl.parse ids 0 text with
  | .error f => .ok (.refused f.message)
  | .ok p => do
    let dsl ← Dsl.document p.workspace
    return { code := 0, printed := .obj [("status", .str "ok"), ("output", .str file), ("warnings", .strings p.warnings)]
             written := some (file, dsl) }

def checkText (ids : IdSource) (text : String) : Result :=
  match Dsl.candidateFault? text with
  | some f => .refused f.message
  | none =>
    match Dsl.parse ids 0 text with
    | .error f => .refused f.message
    | .ok p =>
      let problems := p.workspace.problems
      let sound := isSound problems
      { code := if sound then 0 else 2
        printed := .obj [("status", .str (if sound then "ok" else "invalid")), ("issues", problemsJson problems),
          ("warnings", .strings p.warnings), ("summary", summaryJson problems)] }

/-- Runs a task on the text of its file, or on what went wrong with reading it. -/
def run (ids : IdSource) (task : Task) (input : Except Accident String) : Except Accident Result :=
  match input, task with
  | .error (.fileTrouble t _), _ => .ok (.unreadable task.path t)
  | .error .notUnicode, generate .. | .error .nullInPath, generate .. | .error .halfCharacter, generate .. =>
    .ok .invalidJson
  | .error a, _ => .error a
  | .ok text, parse _ output => .ok (parseText ids output text)
  | .ok text, generate _ output => generateText ids output text
  | .ok text, format path output => formatText ids (output.getD path) text
  | .ok text, check _ => .ok (checkText ids text)

end Task

/-- What a command line comes to. -/
structure Finished where
  code : Nat
  printed : String
  files : Files

/-- The files after the file of a result is written. -/
def Result.filesAfter (files : Files) (r : Result) : Except Accident Files :=
  match r.written with
  | some (file, text) =>
    let (files, done) := files.write (.ofText file) text
    done.map fun _ => files
  | none => .ok files

/-- Runs a command line in a working directory. -/
def runCommand (ids : IdSource) (files : Files) (args : List String) : Except Accident Finished :=
  match Task.ofArguments? args with
  | none => .ok { code := 2, printed := "", files }
  | some task => do
    let r ← task.run ids (files.read (.ofText task.path))
    return { code := r.code, printed := r.line, files := ← r.filesAfter files }

end Blueprint
