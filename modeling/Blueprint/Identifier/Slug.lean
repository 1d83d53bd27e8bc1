/-
  Blueprint.Identifier.Slug — names made fit for ids, keys and files (`slugify`, `sanitize_key`,
  `dsl_filename`).

  A slug is the name in Latin letters and digits, one capitalised word after the other. A view key
  keeps ASCII letters, digits, low lines and hyphens and turns each run of blanks into a low line. A
  file name keeps lower-case letters and digits and turns each run of anything else into a low line.

  Proved: a key consists of key characters (`isKeyChar_of_mem_sanitizeKey`), and a text that does is
  its own key (`sanitizeKey_eq_self`).
-/

import Blueprint.Text.Blank
import Blueprint.Text.LowerCase

namespace Blueprint

open Text

/-- The Latin spelling of a lower-case Cyrillic letter; any other character spells itself. -/
def latin (c : Char) : List Char :=
  match c with
  | 'а' => ['a'] | 'б' => ['b'] | 'в' => ['v'] | 'г' => ['g'] | 'д' => ['d'] | 'е' => ['e']
  | 'ё' => ['y', 'o'] | 'ж' => ['z', 'h'] | 'з' => ['z'] | 'и' => ['i'] | 'й' => ['j'] | 'к' => ['k']
  | 'л' => ['l'] | 'м' => ['m'] | 'н' => ['n'] | 'о' => ['o'] | 'п' => ['p'] | 'р' => ['r']
  | 'с' => ['s'] | 'т' => ['t'] | 'у' => ['u'] | 'ф' => ['f'] | 'х' => ['h'] | 'ц' => ['t', 's']
  | 'ч' => ['c', 'h'] | 'ш' => ['s', 'h'] | 'щ' => ['s', 'h', 'c', 'h'] | 'ъ' => [] | 'ы' => ['y']
  | 'ь' => [] | 'э' => ['e'] | 'ю' => ['y', 'u'] | 'я' => ['y', 'a']
  | 'є' => ['y', 'e'] | 'і' => ['i'] | 'ї' => ['y', 'i'] | 'ґ' => ['g'] | 'ў' => ['u']
  | _ => [c]

def transliterate (cs : List Char) : List Char := (lowercase cs).flatMap latin

def asciiUpper (c : Char) : Char := if 'a' ≤ c ∧ c ≤ 'z' then Char.ofNat (c.toNat - 32) else c

def asciiLower (c : Char) : Char := if 'A' ≤ c ∧ c ≤ 'Z' then Char.ofNat (c.toNat + 32) else c

def capitalize : List Char → List Char
  | [] => []
  | c :: cs => asciiUpper c :: cs.map asciiLower

def slugify (cs : List Char) : List Char :=
  ((fields (!isAsciiAlphanumeric ·) (transliterate cs)).filter (!·.isEmpty)).flatMap capitalize

def isKeyChar (c : Char) : Bool := isAsciiAlphanumeric c || c == '_' || c == '-'

/-- Each run of blanks becomes a low line; `inRun` says that the run before is already written. -/
def joinBlanks (inRun : Bool) : List Char → List Char
  | [] => []
  | c :: cs =>
    if isBlank c then (if inRun then joinBlanks true cs else '_' :: joinBlanks true cs)
    else c :: joinBlanks false cs

def sanitizeKey (cs : List Char) : List Char := (joinBlanks false cs).filter isKeyChar

def sanitizeKeyText (s : String) : String := String.ofList (sanitizeKey s.toList)

def isFileChar (c : Char) : Bool := ('a' ≤ c && c ≤ 'z') || isAsciiDigit c

/-- The file name under which a workspace's document is offered. -/
def documentFileName (workspaceName : String) : String :=
  let stem := ['_'].intercalate
    ((fields (!isFileChar ·) (lowercase workspaceName.toList)).filter (!·.isEmpty))
  String.ofList ((if stem.isEmpty then "workspace".toList else stem) ++ ".dsl".toList)

/-! ## Small facts -/

theorem isKeyChar_of_mem_sanitizeKey {cs : List Char} {c : Char} (h : c ∈ sanitizeKey cs) : isKeyChar c = true :=
  (List.mem_filter.1 h).2

theorem toNat_lt_of_isKeyChar {c : Char} (h : isKeyChar c = true) : c.toNat < 128 := by
  simp only [isKeyChar, isAsciiAlphanumeric, isAsciiLetter, isAsciiDigit, Bool.or_eq_true, Bool.and_eq_true,
    decide_eq_true_eq, beq_iff_eq] at h
  rcases h with ((((h | h) | h) | h) | h)
  · exact Nat.lt_of_le_of_lt (show c.toNat ≤ 'z'.toNat from h.2) (by decide)
  · exact Nat.lt_of_le_of_lt (show c.toNat ≤ 'Z'.toNat from h.2) (by decide)
  · exact Nat.lt_of_le_of_lt (show c.toNat ≤ '9'.toNat from h.2) (by decide)
  · subst h; decide
  · subst h; decide

theorem not_isBlank_of_isKeyChar {c : Char} (h : isKeyChar c = true) : isBlank c = false := by
  have all : ∀ n < 128, isKeyChar (Char.ofNat n) = true → isBlank (Char.ofNat n) = false := by decide
  have := all c.toNat (toNat_lt_of_isKeyChar h)
  rw [Char.ofNat_toNat] at this
  exact this h

theorem joinBlanks_eq_self {cs : List Char} {inRun : Bool} (h : ∀ c ∈ cs, isBlank c = false) :
    joinBlanks inRun cs = cs := by
  induction cs generalizing inRun with
  | nil => rfl
  | cons c cs ih =>
    rw [joinBlanks, h c (by simp)]
    simp only [Bool.false_eq_true, if_false, ih fun d hd => h d (List.mem_cons_of_mem _ hd)]

theorem sanitizeKey_eq_self {cs : List Char} (h : ∀ c ∈ cs, isKeyChar c = true) : sanitizeKey cs = cs := by
  rw [sanitizeKey, joinBlanks_eq_self fun c hc => not_isBlank_of_isKeyChar (h c hc), List.filter_eq_self.2 h]

end Blueprint
