/-
  Blueprint.Json.Reader — reading JSON text.

  The grammar is that of JSON with three more numerals, `NaN`, `Infinity` and `-Infinity`. A numeral
  with a fraction or an exponent is a floating-point number, any other an integer, of at most 4300
  digits. Of two fields with one name the later value stays, in the earlier place. The reader is given
  as much fuel as the text has characters, and every value takes at least one.
-/

import Blueprint.Json.Value
import Blueprint.Number.Numeral
import Blueprint.Text.Half
import Blueprint.Text.Word

namespace Blueprint.Json

open Text

def skipSpace (cs : List Char) : List Char :=
  cs.dropWhile fun c => c == ' ' || c == '\t' || c == '\n' || c == '\r'

def unit? (a b c d : Char) : Option Nat := do
  return ((← hexValue? a) * 16 + (← hexValue? b)) * 256 + (← hexValue? c) * 16 + (← hexValue? d)

/-- The code point that two halves make, if they do. -/
def joined? (high low : Nat) : Option Nat :=
  if 0xD800 ≤ high ∧ high < 0xDC00 ∧ 0xDC00 ≤ low ∧ low < 0xE000 then
    some (0x10000 + (high - 0xD800) * 1024 + (low - 0xDC00))
  else none

/-- The text in which two halves that make a character are that character. -/
def joinHalves : List Char → List Char
  | c :: d :: cs =>
    if c = mark then c :: d :: joinHalves cs
    else match joined? (pointOf c) (pointOf d) with
      | some n => ofPoint n ++ joinHalves cs
      | none => c :: joinHalves (d :: cs)
  | cs => cs

/-- Behind an opening quote: the text up to the closing one, and what follows it. -/
def readText (read : List Char) : List Char → Option (List Char × List Char)
  | '"' :: cs => some (read.reverse, cs)
  | '\\' :: 'u' :: a :: b :: c :: d :: cs =>
    match unit? a b c d with
    | some n => readText ((ofPoint n).reverse ++ read) cs
    | none => none
  | '\\' :: c :: cs =>
    match c with
    | '"' | '\\' | '/' => readText (c :: read) cs
    | 'b' => readText ('\x08' :: read) cs
    | 'f' => readText ('\x0c' :: read) cs
    | 'n' => readText ('\n' :: read) cs
    | 'r' => readText ('\r' :: read) cs
    | 't' => readText ('\t' :: read) cs
    | _ => none
  | c :: cs => if c.toNat < 32 then none else readText (c :: read) cs
  | [] => none

def readString (cs : List Char) : Option (String × List Char) :=
  (readText [] cs).map fun r => (String.ofList (joinHalves r.1), r.2)

def splitDigits (cs : List Char) : List Char × List Char :=
  (cs.takeWhile isAsciiDigit, cs.dropWhile isAsciiDigit)

/-- An exponent, if one stands here. -/
def readExponent (cs : List Char) : Option (Int × List Char) :=
  match cs with
  | e :: rest =>
    if e = 'e' ∨ e = 'E' then
      let (negative, rest) := match rest with
        | '-' :: r => (true, r)
        | '+' :: r => (false, r)
        | r => (false, r)
      match splitDigits rest with
      | ([], _) => none
      | (ds, r) => some (if negative then -(digitsValue ds : Int) else digitsValue ds, r)
    else none
  | [] => none

def readFraction (cs : List Char) : Option (List Char × List Char) :=
  match cs with
  | '.' :: rest =>
    match splitDigits rest with
    | ([], _) => none
    | (ds, r) => some (ds, r)
  | _ => none

def readNumeral (negative : Bool) (cs : List Char) : Option (Scalar × List Char) :=
  let (whole, rest) := match cs with
    | '0' :: r => (['0'], r)
    | _ => splitDigits cs
  if whole.isEmpty then none
  else
    let (fraction, rest) := match readFraction rest with
      | some (ds, r) => (some ds, r)
      | none => (none, rest)
    let (exponent, rest) := match readExponent rest with
      | some (e, r) => (some e, r)
      | none => (none, rest)
    match fraction, exponent with
    | none, none =>
      if 4300 < whole.length then none
      else some (.int (if negative then -(digitsValue whole : Int) else digitsValue whole), rest)
    | _, _ =>
      let ds := fraction.getD []
      some (.real (.ofDecimal negative (digitsValue (whole ++ ds)) (exponent.getD 0 - ds.length)), rest)

/-- Drops a given beginning. -/
def after? (word : List Char) (cs : List Char) : Option (List Char) :=
  if word.isPrefixOf cs then some (cs.drop word.length) else none

/-- The words that are values by themselves. -/
def constants : List (List Char × Json) :=
  [("null".toList, .null), ("true".toList, .bool true), ("false".toList, .bool false),
    ("NaN".toList, .real .undefined), ("Infinity".toList, .real (.infinite false)),
    ("-Infinity".toList, .real (.infinite true))]

def readScalar (cs : List Char) : Option (Json × List Char) :=
  match constants.findSome? fun w => (after? w.1 cs).map fun r => (w.2, r) with
  | some r => some r
  | none =>
    let numeral : Option (Scalar × List Char) := match cs with
      | '-' :: rest => readNumeral true rest
      | _ => readNumeral false cs
    numeral.map fun r => (.num r.1, r.2)

mutual

def readValue : Nat → List Char → Option (Json × List Char)
  | 0, _ => none
  | fuel + 1, cs =>
    match cs with
    | '"' :: rest => (readString rest).map fun r => (.str r.1, r.2)
    | '[' :: rest =>
      match skipSpace rest with
      | ']' :: r => some (.arr [], r)
      | r => (readItems fuel [] r).map fun r => (.arr r.1, r.2)
    | '{' :: rest =>
      match skipSpace rest with
      | '}' :: r => some (.obj [], r)
      | r => (readMembers fuel [] r).map fun r => (.obj r.1, r.2)
    | _ => readScalar cs

/-- The items of an array from here to its bracket; `read` are those before, last first. -/
def readItems : Nat → List Json → List Char → Option (List Json × List Char)
  | 0, _, _ => none
  | fuel + 1, read, cs =>
    match readValue fuel cs with
    | none => none
    | some (item, rest) =>
      match skipSpace rest with
      | ',' :: r => readItems fuel (item :: read) (skipSpace r)
      | ']' :: r => some ((item :: read).reverse, r)
      | _ => none

/-- The fields of an object from here to its brace; `read` are those before. -/
def readMembers : Nat → Fields → List Char → Option (Fields × List Char)
  | 0, _, _ => none
  | fuel + 1, read, cs =>
    match cs with
    | '"' :: rest =>
      match readString rest with
      | none => none
      | some (name, rest) =>
        match skipSpace rest with
        | ':' :: r =>
          match readValue fuel (skipSpace r) with
          | none => none
          | some (value, rest) =>
            match skipSpace rest with
            | ',' :: r => readMembers fuel (read.set name value) (skipSpace r)
            | '}' :: r => some (read.set name value, r)
            | _ => none
        | _ => none
    | _ => none

end

/-- The value that a whole text writes, if it writes one. -/
def read? (text : String) : Option Json :=
  let cs := skipSpace text.toList
  match readValue (cs.length + 1) cs with
  | some (j, rest) => if (skipSpace rest).isEmpty then some j else none
  | none => none

end Blueprint.Json
