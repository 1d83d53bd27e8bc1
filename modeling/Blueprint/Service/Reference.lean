/-
  Blueprint.Service.Reference — addresses as they are written.

  A reference is perhaps a scheme and a colon, perhaps two slashes and an authority, then a path, then
  perhaps a question mark and a query, and a number sign and a remark. An authority is perhaps a user
  and an at sign, then a host, then perhaps a colon and a port, which is an integer. A reference is
  neither too long nor has it control characters, and its host is one; if nothing stands before its
  path, that cannot look like an authority or a scheme.

  Proved: a scheme and what is behind its colon make up the text (`splitScheme_eq`).
-/

import Blueprint.Number.Written
import Blueprint.Service.Host
import Blueprint.Text.Utf8

namespace Blueprint

open Text

structure Authority where
  user : List Char := []
  host : List Char := []
  port : List Char := []
  deriving DecidableEq, Repr

structure Reference where
  /-- In lower case. -/
  scheme : List Char
  authority : Authority
  path : List Char
  query : List Char
  deriving DecidableEq, Repr

namespace Authority

/-- The host at the start of a text. One in brackets may have anything in it. -/
def hostOf (cs : List Char) : List Char :=
  if cs.head? = some '[' ∧ ']' ∈ cs then (cs.reverse.dropWhile (· != ']')).reverse
  else cs.takeWhile fun c => c != ':' && c != '@'

/-- The user is in front of the last at sign. -/
def ofText (cs : List Char) : Authority :=
  let rest := (cs.reverse.takeWhile (· != '@')).reverse
  let user := (cs.take (cs.length - rest.length)).dropLast
  let host := hostOf rest
  let behind := rest.drop host.length
  { user, host, port := if behind.head? = some ':' then behind.drop 1 else behind }

end Authority

namespace Reference

/-- No reference is longer, and neither is its path or its query when it is written with escapes. -/
def lengthBound : Nat := 65536

/-- A control character of ASCII; no reference has one. -/
def isControl (c : Char) : Bool := c.toNat < 32 || c.toNat == 127

/-- The characters of a scheme. -/
def isSchemeChar (c : Char) : Bool := isAsciiAlphanumeric c || c == '+' || c == '.' || c == '-'

/-- The scheme of a text, and what follows its colon. The scheme may be empty. -/
def splitScheme (cs : List Char) : List Char × List Char :=
  let scheme := cs.takeWhile isSchemeChar
  match cs.dropWhile isSchemeChar with
  | ':' :: rest => if scheme.head?.all isAsciiLetter then (scheme, rest) else ([], cs)
  | _ => ([], cs)

/-- The authority behind two slashes, and what follows it. -/
def splitAuthority : List Char → List Char × List Char
  | '/' :: '/' :: cs =>
    let ends (c : Char) : Bool := c == '/' || c == '?' || c == '#'
    (cs.takeWhile (!ends ·), cs.dropWhile (!ends ·))
  | cs => ([], cs)

/-- The parts of a text. -/
def split (cs : List Char) : Reference :=
  let (scheme, cs) := splitScheme cs
  let (authority, cs) := splitAuthority cs
  { scheme := Binary64.inLowerCase scheme
    authority := .ofText authority
    path := cs.takeWhile fun c => c != '?' && c != '#'
    query := ((cs.takeWhile (· != '#')).dropWhile (· != '?')).drop 1 }

/-- Nothing stands before the path. -/
def isBare (r : Reference) : Bool := r.scheme.isEmpty && r.authority == {}

/-- The text is short enough and has no control characters. -/
def isReadable (cs : List Char) : Bool := cs.length ≤ lengthBound && !cs.any isControl

/-- The parts of the reference are what they should be. -/
def isSound (r : Reference) : Bool :=
  let hasPort := r.authority.port.isEmpty || isInteger r.authority.port
  let isMistakable := r.isBare && (r.path.take 2 = ['/', '/'] || r.path.head? = some ':')
  hasPort && Host.isHost r.authority.host && !isMistakable

/-- The reference that a text is, if it is one. -/
def ofText? (cs : List Char) : Option Reference :=
  if isReadable cs && (split cs).isSound then some (split cs) else none

/-- The reference names a place of its own. -/
def isAbsolute (r : Reference) : Bool := !r.scheme.isEmpty && !r.authority.host.isEmpty

/-! ## Lengths -/

/-- How long a text is when all but some characters are written as escapes of their bytes. -/
def escapedLength (isKept : Char → Bool) (cs : List Char) : Nat :=
  cs.foldl (fun n c => n + if isKept c then 1 else 3 * byteCount c.toNat) 0

def isQueryChar (c : Char) : Bool := 32 < c.toNat && c.toNat < 127 && !(['"', '#', '<', '>'].contains c)

def isPathChar (c : Char) : Bool := isQueryChar c && !(['?', '\x60', '\x7b', '\x7d'].contains c)

/-- A reference that is put together anew is too long with its escapes. -/
def isTooLong (r : Reference) : Bool :=
  !r.isAbsolute &&
    (lengthBound < escapedLength isPathChar r.path || lengthBound < escapedLength isQueryChar r.query)

/-! ## Small facts -/

theorem splitScheme_eq (cs : List Char) :
    splitScheme cs = ([], cs) ∨ (splitScheme cs).1 ++ ':' :: (splitScheme cs).2 = cs := by
  unfold splitScheme
  split
  · next rest h =>
    by_cases first : (cs.takeWhile isSchemeChar).head?.all isAsciiLetter = true
    · simp only [first, if_true]
      exact .inr (by rw [← h, List.takeWhile_append_dropWhile])
    · simp only [first]
      exact .inl rfl
  · exact .inl rfl

end Reference

end Blueprint
