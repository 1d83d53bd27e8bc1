/-
  Blueprint.Storage.Files — the files of a working directory.

  Files and directories are kept by their place, the names that lead to them from the working
  directory. A path leads to a place name by name, and every name but the last must be a directory. A
  name has at most 255 bytes and a path less than 4096. A file holds text, or bytes that are no text.
  What fails half way leaves behind what it has done so far.

  Proved: what is put in a place is found there, and no other place changes (`node?_put`).
-/

import Blueprint.Fault
import Blueprint.Storage.Path
import Blueprint.Text.Half
import Blueprint.Text.Line
import Blueprint.Text.Utf8

namespace Blueprint

inductive Content where
  | text (s : String)
  /-- Bytes that are no text, and the text that is shown for them. -/
  | garbled (shown : String)
  deriving DecidableEq, Repr

namespace Content

def ofBytes (bytes : List Nat) : Content :=
  let shown := Text.saying (Text.shownBytes bytes)
  if (Text.decodeBytes bytes).all (·.isSome) then text shown else garbled shown

def shown : Content → String
  | text s => s
  | garbled s => s

def exactly : Content → Except Accident String
  | text s => .ok s
  | garbled _ => .error .notUnicode

/-- The text that is read, every line ending in a line feed. -/
def input (c : Content) : Except Accident String :=
  c.exactly.map fun s => String.ofList (Text.normalizeNewlines s.toList)

end Content

inductive Node where
  | directory
  | file (content : Content)
  deriving DecidableEq, Repr

/-- A place is the names that lead to it; an absolute one begins with its slashes. -/
abbrev Place := List String

structure Files where
  entries : List (Place × Node) := []
  deriving DecidableEq, Repr

namespace Files

/-- The working directory is always there, and so are those that it stands in and the root. -/
def isRoot (place : Place) : Bool := place == ["/"] || place == ["//"] || place.all (· == "..")

def node? (files : Files) (place : Place) : Option Node :=
  if isRoot place then some .directory else (files.entries.find? (·.1 == place)).map (·.2)

def put (files : Files) (place : Place) (node : Node) : Files :=
  { entries := files.entries.filter (·.1 != place) ++ [(place, node)] }

/-- The directory that a place stands in; nothing stands above the root. -/
def outer (place : Place) : Place :=
  if place.all (· == "..") then place ++ [".."] else if isRoot place then place else place.dropLast

def nameBound : Nat := 255

def pathBound : Nat := 4096

/-- Goes on from a place name by name. -/
def walk (files : Files) (place : Place) : List String → Except FileTrouble Place
  | [] => .ok place
  | name :: names =>
    match files.node? place with
    | some .directory =>
      if nameBound < Path.byteLength name then .error .nameTooLong
      else walk files (if name = ".." then outer place else place ++ [name]) names
    | some (.file _) => .error .notDirectory
    | none => .error .missing

/-- The place that a path leads to. -/
def placeOf (files : Files) (p : Path) : Except FileTrouble Place :=
  if pathBound ≤ Path.byteLength p.text then .error .nameTooLong
  else files.walk (if p.root = "" then [] else [p.root]) p.parts

def trouble {α : Type} (t : FileTrouble) (p : Path) : Except Accident α := .error (.fileTrouble t p.text)

/-- The place that a path leads to, if it is a path at all. -/
def reach (files : Files) (p : Path) : Except Accident Place :=
  match p.accident? with
  | some a => .error a
  | none =>
    match files.placeOf p with
    | .ok place => .ok place
    | .error t => trouble t p

/-- A name that is too long leaves it open whether there is something. -/
def has (files : Files) (p : Path) : Except Accident Bool :=
  match files.reach p with
  | .ok place => .ok (files.node? place).isSome
  | .error (.fileTrouble .nameTooLong path) => .error (.fileTrouble .nameTooLong path)
  | .error _ => .ok false

def contentAt (files : Files) (p : Path) : Except Accident Content := do
  match files.node? (← files.reach p) with
  | none => trouble .missing p
  | some .directory => trouble .isDirectory p
  | some (.file content) => return content

def read (files : Files) (p : Path) : Except Accident String := do
  (← files.contentAt p).input

/-- The text of a file with its line ends as they are. -/
def readExactly (files : Files) (p : Path) : Except Accident String := do
  (← files.contentAt p).exactly

/-- The files after something is done to them, and whether that failed. -/
abbrev Done := Files × Except Accident Unit

/-- Writes a file. It is emptied before it is found that the text cannot be written. -/
def write (files : Files) (p : Path) (s : String) : Done :=
  match files.reach p with
  | .error a => (files, .error a)
  | .ok place =>
    match files.node? place with
    | some .directory => (files, trouble .isDirectory p)
    | _ =>
      if Text.isWhole s then (files.put place (.file (.text s)), .ok ())
      else (files.put place (.file (.text "")), .error .halfCharacter)

/-- Makes one directory, unless it is there. -/
def makeDirectory (files : Files) (p : Path) : Done :=
  match files.placeOf p with
  | .error t => (files, trouble t p)
  | .ok place =>
    match files.node? place with
    | some .directory => (files, .ok ())
    | some (.file _) => (files, trouble .occupied p)
    | none => (files.put place .directory, .ok ())

/-- Makes a directory and those that it stands in; its names are given backwards. -/
def makeDirectoriesFrom (files : Files) (root : String) : List String → Done
  | [] => (files, .ok ())
  | name :: outer =>
    let p : Path := { root, parts := (name :: outer).reverse }
    match files.placeOf p with
    | .error .missing =>
      match makeDirectoriesFrom files root outer with
      | (files, .ok ()) => files.makeDirectory p
      | failed => failed
    | _ => files.makeDirectory p

def makeDirectories (files : Files) (p : Path) : Done :=
  match p.accident? with
  | some a => (files, .error a)
  | none => files.makeDirectoriesFrom p.root p.parts.reverse

/-- Writes a file, making the directories that it stands in. -/
def save (files : Files) (p : Path) (s : String) : Done :=
  match files.makeDirectories p.parent with
  | (files, .ok ()) => files.write p s
  | failed => failed

/-- Adds a file and the directories that it stands in. -/
def add (files : Files) (p : Path) (content : Content) : Files :=
  let files := (List.range p.parts.length).foldl (fun files n =>
    let outer := p.parts.take n
    if (files.node? outer).isSome then files else files.put outer .directory) files
  files.put p.parts (.file content)

/-- The place is in the working directory. -/
def isInside (place : Place) : Bool := !(["..", "/", "//"].contains (place.head?.getD ""))

/-- All files in the working directory, with their paths. -/
def all (files : Files) : List (String × Content) :=
  files.entries.filterMap fun (place, node) =>
    match node with
    | .file content => if isInside place then some ("/".intercalate place, content) else none
    | .directory => none

/-! ## Small facts -/

theorem node?_put (files : Files) (place other : Place) (node : Node) (h : isRoot other = false) :
    (files.put place node).node? other = if place = other then some node else files.node? other := by
  simp only [node?, h, put, List.find?_append, Bool.false_eq_true, if_false]
  by_cases hp : place = other
  · subst hp
    have : List.find? (fun e => e.1 == place) (files.entries.filter (·.1 != place)) = none := by
      simp [List.find?_eq_none]
    simp [this]
  · have : List.find? (fun e => e.1 == other) (files.entries.filter (·.1 != place)) =
        files.entries.find? (·.1 == other) := by
      rw [List.find?_filter]
      congr 1
      funext e
      by_cases he : e.1 = other
      · simp [he, Ne.symm hp]
      · simp [he]
    simp [this, hp]

end Files

end Blueprint
