/-
  Blueprint.Json.Printer — writing JSON text.

  Text is written in ASCII: what lies outside the printable characters is a `\u` escape of four
  lower-case hexadecimal digits, in two halves beyond the first plane. On one line, a comma and a
  colon are followed by a space; indented, each item and field has a line of its own, two columns
  further in than its container, and an empty container stays on one line. Floating-point numbers have
  their shortest figures.
-/

import Blueprint.Json.Value
import Blueprint.Number.Shortest
import Blueprint.Text.Half

namespace Blueprint.Json

open Text

def unitEscape (n : Nat) : List Char := '\\' :: 'u' :: hexDigits 4 n

/-- A code point as it stands between quotes. -/
def escapePoint (n : Nat) : List Char :=
  if n = 34 then ['\\', '"']
  else if n = 92 then ['\\', '\\']
  else if 32 ≤ n ∧ n ≤ 126 then [Char.ofNat n]
  else match n with
    | 8 => ['\\', 'b']
    | 9 => ['\\', 't']
    | 10 => ['\\', 'n']
    | 12 => ['\\', 'f']
    | 13 => ['\\', 'r']
    | _ =>
      if n < 0x10000 then unitEscape n
      else unitEscape (0xD800 + (n - 0x10000) / 1024) ++ unitEscape (0xDC00 + (n - 0x10000) % 1024)

def stringText (s : String) : String :=
  "\"" ++ String.ofList ((points s.toList).flatMap escapePoint) ++ "\""

def scalarText : Scalar → String
  | .int n => intText n
  | .real .undefined => "NaN"
  | .real (.infinite negative) => if negative then "-Infinity" else "Infinity"
  | .real x => x.text

inductive Layout where
  | oneLine
  | indented
  deriving DecidableEq, Repr

namespace Layout

/-- What stands before an item at a depth, and before the closing bracket of its container. -/
def newline (layout : Layout) (depth : Nat) : String :=
  match layout with
  | .oneLine => ""
  | .indented => "\n" ++ String.ofList (List.replicate (2 * depth) ' ')

def separator (layout : Layout) (depth : Nat) : String :=
  match layout with
  | .oneLine => ", "
  | .indented => "," ++ layout.newline depth

end Layout

mutual

/-- Writes a value behind `written`. -/
def printOnto (layout : Layout) (depth : Nat) (written : String) : Json → String
  | .null => written ++ "null"
  | .bool b => written ++ (if b then "true" else "false")
  | .num n => written ++ scalarText n
  | .str s => written ++ stringText s
  | .arr [] => written ++ "[]"
  | .arr (item :: items) =>
    printItems layout depth (printOnto layout (depth + 1) (written ++ "[" ++ layout.newline (depth + 1)) item) items
  | .obj [] => written ++ "\x7b\x7d"
  | .obj ((name, value) :: fields) =>
    printFields layout depth
      (printOnto layout (depth + 1) (written ++ "\x7b" ++ layout.newline (depth + 1) ++ stringText name ++ ": ") value)
      fields

def printItems (layout : Layout) (depth : Nat) (written : String) : List Json → String
  | [] => written ++ layout.newline depth ++ "]"
  | item :: items =>
    printItems layout depth (printOnto layout (depth + 1) (written ++ layout.separator (depth + 1)) item) items

def printFields (layout : Layout) (depth : Nat) (written : String) : List (String × Json) → String
  | [] => written ++ layout.newline depth ++ "\x7d"
  | (name, value) :: fields =>
    printFields layout depth
      (printOnto layout (depth + 1) (written ++ layout.separator (depth + 1) ++ stringText name ++ ": ") value) fields

end

def print (layout : Layout) (j : Json) : String := printOnto layout 0 "" j

end Blueprint.Json
