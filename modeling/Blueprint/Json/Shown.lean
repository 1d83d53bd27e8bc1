/-
  Blueprint.Json.Shown — a value in the middle of a sentence.

  Text stands for itself. Null, true and false are capitalised words. Inside an array or an object,
  text is put in single quotes, or in double quotes if it holds a single and no double quote, with
  backslashes before backslashes and before the quote in use, and escapes for what is not printable.
-/

import Blueprint.Json.Value
import Blueprint.Number.Shortest
import Blueprint.Text.Half
import Blueprint.Text.Printable

namespace Blueprint.Json

open Text

/-- A code point in hexadecimal digits, as many as it needs of two, four and eight. -/
def codeEscape (n : Nat) : List Char :=
  if n < 0x100 then '\\' :: 'x' :: hexDigits 2 n
  else if n < 0x10000 then '\\' :: 'u' :: hexDigits 4 n
  else '\\' :: 'U' :: hexDigits 8 n

/-- A code point between quotes. -/
def quotedPoint (quote : Char) (n : Nat) : List Char :=
  let c := Char.ofNat n
  if c == '\\' || c == quote then ['\\', c]
  else match c with
    | '\n' => ['\\', 'n']
    | '\r' => ['\\', 'r']
    | '\t' => ['\\', 't']
    | _ => if !isHalf n && isPrintable c then [c] else codeEscape n

def quotedText (s : String) : String :=
  let cs := s.toList
  let quote := if cs.contains '\'' && !cs.contains '"' then '"' else '\''
  String.ofList (quote :: (points cs).flatMap (quotedPoint quote) ++ [quote])

mutual

/-- A value as it stands inside another one. -/
def inner : Json → String
  | .null => "None"
  | .bool b => if b then "True" else "False"
  | .num (.int n) => intText n
  | .num (.real x) => x.text
  | .str s => quotedText s
  | .arr items => "[" ++ ", ".intercalate (innerItems items) ++ "]"
  | .obj fields => "\x7b" ++ ", ".intercalate (innerFields fields) ++ "\x7d"

def innerItems : List Json → List String
  | [] => []
  | item :: items => inner item :: innerItems items

def innerFields : List (String × Json) → List String
  | [] => []
  | (name, value) :: fields => (quotedText name ++ ": " ++ inner value) :: innerFields fields

end

def shown : Json → String
  | .str s => s
  | j => j.inner

end Blueprint.Json
