/-
  Blueprint.Proofs.Dsl.Reading — written lines are read as what they were written for.

  A line begins with a word: the identifier of an element or a keyword. What comes behind the word tells a
  declaration from a relationship, and a word that is none of the reserved ones is not taken for a keyword,
  since a keyword is followed by something that is not part of a word.

  Proved: the clause of a declaration, of the header of a group, of a relationship and of the header of a
  workspace (`classify_declaration`, `classify_group`, `classify_relationship`, `classify_workspace`). Whatever
  texts stand behind its words, a declaration or a relationship is read with just these words, or not at all
  (`classify_declared`, `classify_connected`).
-/

import Blueprint.Dsl.Clause
import Blueprint.Proofs.Dsl.Outlines
import Blueprint.Proofs.Identifier.Allocation

namespace Blueprint.Dsl

open Text

/-! ## Words -/

section Words

variable {w rest : List Char}

theorem isBare_word (h : IsWord w) : IsBare w := by
  intro c hc
  have char := h.forall_mem c hc
  exact ⟨ne_of_class char rfl, ne_of_class char rfl, ne_of_class char rfl⟩

theorem isFlat_word (h : IsWord w) : IsFlat w := (isBare_word h).flat

theorem isNameChar_of_identifierChar {c : Char} (h : isIdentifierChar c = true) : isNameChar c = true := by
  simp [isNameChar, isWordChar_of_identifierChar h]

theorem isName_word (h : IsWord w) : IsName w :=
  ⟨h.ne_nil, fun c hc => isNameChar_of_identifierChar (h.forall_mem c hc)⟩

theorem dropBlanks?_of_head {c : Char} (h : isBlank c = false) (cs : List Char) :
    dropBlanks? (' ' :: c :: cs) = some (c :: cs) := by
  refine dropBlanks?_gap isGap_blank ?_
  rintro _ ⟨⟩
  exact h

theorem name?_word (h : IsWord w) (rest : List Char) : name? (w ++ ' ' :: rest) = some (w, ' ' :: rest) :=
  name?_append (isName_word h) (isGap_blank.ends_name rest)

theorem dropWord?_append (word rest : List Char) : dropWord? word (word ++ rest) = some rest := by
  simp [dropWord?]

theorem dropWord?_eq_some {word cs : List Char} (h : dropWord? word cs = some rest) : cs = word ++ rest := by
  unfold dropWord? at h
  split at h
  · next prefixed =>
    obtain ⟨tail, rfl⟩ := List.isPrefixOf_iff_prefix.1 prefixed
    simpa using h
  · cases h

/-- Behind a keyword that begins a longer word, the word goes on. -/
theorem dropWord?_word {word left : List Char} (hword : ∀ c ∈ word, isIdentifierChar c = true) (h : IsWord w)
    (ne : w ≠ word) (dropped : dropWord? word (w ++ ' ' :: rest) = some left) :
    ∃ c cs, left = c :: cs ∧ isIdentifierChar c = true := by
  have split := dropWord?_eq_some dropped
  rcases List.append_eq_append_iff.1 split with ⟨mid, hmid, tail⟩ | ⟨mid, hmid, tail⟩
  · cases mid with
    | nil => exact absurd (by simpa using hmid.symm) ne
    | cons c cs =>
      have blank : c = ' ' := by simpa using (List.cons.inj tail).1.symm
      have inside := hword c (by simp [hmid])
      rw [blank] at inside
      exact absurd inside (by decide)
  · cases mid with
    | nil => exact absurd (by simpa using hmid) ne
    | cons c cs => exact ⟨c, cs ++ ' ' :: rest, by simpa using tail, h.forall_mem c (by simp [hmid])⟩

theorem dropBlanks?_of_identifierChar {c : Char} (h : isIdentifierChar c = true) (cs : List Char) :
    dropBlanks? (c :: cs) = none := by
  simp [dropBlanks?, not_isBlank_of_identifierChar h]

/-- A word that is not the keyword is not taken for it. -/
theorem dropWord?_dropBlanks?_word {word : List Char} (hword : ∀ c ∈ word, isIdentifierChar c = true)
    (h : IsWord w) (ne : w ≠ word) (rest : List Char) :
    (dropWord? word (w ++ ' ' :: rest)).bind dropBlanks? = none := by
  cases dropped : dropWord? word (w ++ ' ' :: rest) with
  | none => rfl
  | some left =>
    obtain ⟨c, cs, rfl, char⟩ := dropWord?_word hword h ne dropped
    exact dropBlanks?_of_identifierChar char cs

/-- Where another word begins the line, a keyword is not found. -/
theorem unread_of_word {keyword : List Char} (known : IsWord keyword) (word : IsWord w) (ne : w ≠ keyword)
    (rest : List Char) {α : Type} (f : List Char → Option α) :
    ((dropWord? keyword (w ++ ' ' :: rest)).bind fun r => (dropBlanks? r).bind f) = none := by
  rw [← Option.bind_assoc, dropWord?_dropBlanks?_word known.forall_mem word ne]
  rfl

theorem keyword?_word {word : List Char} (hword : ∀ c ∈ word, isIdentifierChar c = true) (h : IsWord w)
    (ne : w ≠ word) (rest : List Char) : keyword? word (w ++ ' ' :: rest) = none := by
  rw [keyword?]
  cases dropped : dropWord? word (w ++ ' ' :: rest) with
  | none => rfl
  | some left =>
    obtain ⟨c, cs, rfl, char⟩ := dropWord?_word hword h ne dropped
    simp [isWordChar_of_identifierChar char]

theorem dropFinalLineFeed_of_unbroken {cs : List Char} (h : IsUnbroken cs) : dropFinalLineFeed cs = cs := by
  refine Allocation.dropFinalLineFeed_of_last fun last => ?_
  have broken := h '\n' (List.mem_of_getLast? last)
  exact absurd broken (by decide)

theorem restOfLine?_of_unbroken {cs : List Char} (h : IsUnbroken cs) : restOfLine? cs = some cs := by
  have feed : '\n' ∉ cs := fun feed => absurd (h '\n' feed) (by decide)
  simp [restOfLine?, dropFinalLineFeed_of_unbroken h, feed]

end Words

/-! ## Statements -/

section Prefixes

variable {s : Statement} {p : List Char}

/-- What is left of a text without the blanks at its end begins as the text does, up to a character that is none. -/
theorem prefix_trimRight {c : Char} (last : p.getLast? = some c) (notBlank : isBlank c = false) (rest : List Char) :
    p <+: trimRight (p ++ rest) := by
  have kept : trimRight p = p := trimRight_of_last last notBlank
  rw [trimRight, List.reverse_append, List.dropWhile_append]
  split
  · exact ⟨[], (List.append_nil p).trans kept.symm⟩
  · rw [List.reverse_append, List.reverse_reverse]
    exact List.prefix_append _ _

theorem prefix_body {c : Char} (starts : p <+: s.text) (last : p.getLast? = some c) (ends : mayEnd c = true) :
    p <+: s.body := by
  obtain ⟨notBlank, _, notOpening⟩ := mayEnd_iff.1 ends
  obtain ⟨rest, text⟩ := starts
  unfold Statement.body
  split
  · next opens =>
    have more : rest ≠ [] := by
      rintro rfl
      rw [Statement.opens, ← text, List.append_nil, last] at opens
      exact notOpening (by simpa using opens)
    rw [← text, List.dropLast_append_of_ne_nil more]
    exact prefix_trimRight last notBlank _
  · exact ⟨rest, text⟩

end Prefixes

/-- A statement that is neither a closing brace nor out of a comment, and its body. -/
structure Tells (s : Statement) (body : List Char) : Prop where
  body : s.body = body
  notClose : s.isClose = false
  live : s.fromComment = false

section Statements

variable {line header : List Char}

theorem opens_solid (h : Solid line) (n : Nat) (fromComment : Bool) :
    Statement.opens { text := line, line := n, fromComment } = false := by
  obtain ⟨d, hd, ending⟩ := h.last
  rw [Statement.opens, hd]
  simpa using (mayEnd_iff.1 ending).2.2

theorem isClose_solid (h : Solid line) (n : Nat) (fromComment : Bool) :
    Statement.isClose { text := line, line := n, fromComment } = false := by
  obtain ⟨c, hc, letter⟩ := h.first
  rw [Statement.isClose, beq_eq_false_iff_ne]
  rintro rfl
  cases hc
  cases letter

theorem opens_opening (header : List Char) (n : Nat) :
    Statement.opens { text := opening header, line := n } = true := by
  rw [Statement.opens, opening, List.getLast?_append]
  rfl

theorem tells_line (h : Solid line) (n : Nat) : Tells { text := line, line := n } line := by
  refine ⟨?_, isClose_solid h n false, rfl⟩
  rw [Statement.body, opens_solid h]
  rfl

theorem tells_opening (h : Solid header) (n : Nat) : Tells { text := opening header, line := n } header := by
  obtain ⟨d, hd, ending⟩ := h.last
  refine ⟨?_, ?_, rfl⟩
  · have inner : (opening header).dropLast = header ++ [' '] := by
      rw [opening, List.dropLast_append_of_ne_nil (by simp)]
      rfl
    have blank : isBlank ' ' = true := by decide
    rw [Statement.body, opens_opening, if_pos rfl, inner, trimRight, List.reverse_append, List.reverse_singleton,
      List.singleton_append, List.dropWhile_cons_of_pos blank]
    exact trimRight_of_last hd (mayEnd_iff.1 ending).1
  · rw [Statement.isClose, beq_eq_false_iff_ne]
    intro e
    have lengths := congrArg List.length e
    simp [opening] at lengths

end Statements

/-! ## Clauses -/

section Clauses

variable {s : Statement} {w rest : List Char}

/-- A body of several words is not one of those that open the parts of a workspace. -/
theorem body_ne {first : List Char} (body : s.body = first ++ ' ' :: rest) (name : List Char)
    (blank : ' ' ∉ name) :
    (s.opens && s.body == name) = false := by
  rw [body, Bool.and_eq_false_iff, beq_eq_false_iff_ne]
  refine .inr ?_
  rintro rfl
  exact blank (by simp)

/-- A line that begins with a word is not the header of a block of its own kind. -/
theorem classify_of_word (inViews : Bool) (body : s.body = w ++ ' ' :: rest) (notClose : s.isClose = false)
    (h : IsWord w) (ne : w ≠ "workspace".toList) :
    classify s inViews = if inViews then viewClause s else modelClause s := by
  have noKeyword : keyword? "workspace".toList s.body = none := by
    rw [body]
    exact keyword?_word (IsWord.forall_mem (by decide)) h ne rest
  simp only [classify, notClose, body_ne body "model".toList (by decide),
    body_ne body "views".toList (by decide), body_ne body "styles".toList (by decide), noKeyword,
      Bool.false_eq_true, if_false]

theorem classify_word (hs : Tells s (w ++ ' ' :: rest)) (h : IsWord w) (ne : w ≠ "workspace".toList) :
    classify s false = modelClause s := classify_of_word false hs.body hs.notClose h ne

theorem modelClause_eq {body : List Char} (hs : Tells s body) :
    modelClause s = ((element? body).or <| (group? body).or <| relationship? body).getD .unknown := by
  rw [modelClause, hs.live, hs.body]
  rfl

theorem findSome?_of_only {α β : Type} {f : α → Option β} {xs : List α} {x : α} (hx : x ∈ xs)
    (only : ∀ z ∈ xs, z ≠ x → f z = none) : xs.findSome? f = f x := by
  induction xs with
  | nil => cases hx
  | cons z zs ih =>
    have later := fun u hu => only u (List.mem_cons_of_mem _ hu)
    rw [List.findSome?_cons]
    by_cases same : z = x
    · subst same
      cases here : f z with
      | some y => rfl
      | none =>
        refine List.findSome?_eq_none_iff.2 fun u hu => ?_
        by_cases again : u = z
        · rw [again, here]
        · exact later u hu again
    · rw [only z List.mem_cons_self same]
      exact ih ((List.mem_cons.1 hx).resolve_left fun e => same e.symm) later

theorem isWord_keyword (kind : ElementKind) : IsWord kind.keyword.toList := by
  cases kind <;> decide

/-- Kinds that are told by their keywords have different ones. -/
theorem eq_of_keyword {α : Type} {keyword : α → String} {ofKeyword? : String → Option α}
    (told : ∀ kind, ofKeyword? (keyword kind) = some kind) {kind other : α}
    (h : (keyword kind).toList = (keyword other).toList) : kind = other := by
  have same := congrArg ofKeyword? (String.toList_inj.1 h)
  rw [told, told] at same
  exact Option.some.inj same

theorem ne_of_notReserved (notReserved : String.ofList w ∉ reservedWords) : ∀ word ∈ reservedWords, w ≠ word.toList := by
  rintro word hw rfl
  exact notReserved (String.ofList_toList ▸ hw)

/-- What is read of a declaration depends on where its name ends and on what follows; the identifier does not. -/
theorem element?_declared {kind : ElementKind} (hk : kind ≠ .group) (h : IsWord w) (rest : List Char) :
    element? (w ++ " = ".toList ++ (kind.keyword.toList ++ ' ' :: '"' :: rest)) =
      (closeQuote? rest).bind fun p => (restOfLine? p.2).map fun tail => .element (some w) kind p.1 tail := by
  have start : w ++ " = ".toList ++ (kind.keyword.toList ++ ' ' :: '"' :: rest) =
      w ++ ' ' :: '=' :: ' ' :: (kind.keyword.toList ++ ' ' :: '"' :: rest) := by
    rw [List.append_assoc]
    rfl
  have equals : ∀ cs, trimLeft (' ' :: '=' :: cs) = '=' :: cs := fun cs => rfl
  have declared : trimLeft (' ' :: (kind.keyword.toList ++ ' ' :: '"' :: rest)) =
      kind.keyword.toList ++ ' ' :: '"' :: rest := by
    cases kind <;> rfl
  rw [start, element?, name?_word h]
  simp only [equals, declared]
  refine (findSome?_of_only (x := kind) ?_ ?_).trans ?_
  · simp [ElementKind.declarable, ElementKind.mem_all, hk]
  · intro other _ ne
    exact unread_of_word (isWord_keyword other) (isWord_keyword kind) (fun e => ne (eq_of_keyword ElementKind.ofKeyword?_keyword e.symm)) _ _
  · have blanks : dropBlanks? (' ' :: '"' :: rest) = some ('"' :: rest) := rfl
    rw [dropWord?_append]
    simp only [Option.bind_eq_bind, Option.bind_some, blanks, quoted?]
    cases closeQuote? rest with
    | none => rfl
    | some p =>
      obtain ⟨name, tail⟩ := p
      simp only [Option.bind_some]
      cases restOfLine? tail <;> rfl

theorem element?_declaration {kind : ElementKind} (hk : kind ≠ .group) {name : List Char} (clean : IsClean name)
    (h : IsWord w) (unbroken : IsUnbroken rest) :
    element? (w ++ " = ".toList ++ (kind.keyword.toList ++ ' ' :: (quote name ++ rest))) =
      some (.element (some w) kind (escape name) rest) := by
  have closed : closeQuote? (escape name ++ ['"'] ++ rest) = some (escape name, rest) := by
    rw [List.append_assoc]
    exact closeQuote_escape clean rest
  rw [quote, List.cons_append, element?_declared hk h, closed, Option.bind_some, restOfLine?_of_unbroken unbroken]
  rfl

theorem classify_declaration {kind : ElementKind} (hk : kind ≠ .group) {name : List Char} (clean : IsClean name)
    (h : IsWord w) (ne : w ≠ "workspace".toList) (unbroken : IsUnbroken rest)
    (hs : Tells s (w ++ " = ".toList ++ (kind.keyword.toList ++ ' ' :: (quote name ++ rest)))) :
    classify s false = .element (some w) kind (escape name) rest := by
  have word : Tells s (w ++ ' ' :: '=' :: ' ' :: (kind.keyword.toList ++ ' ' :: (quote name ++ rest))) := by
    rw [List.append_assoc] at hs
    exact hs
  rw [classify_word word h ne, modelClause_eq hs, element?_declaration hk clean h unbroken]
  rfl

/-- Nothing is declared where neither an equals sign follows the word nor the word is a keyword. -/
theorem element?_word (h : IsWord w) (ne : ∀ kind ∈ ElementKind.declarable, w ≠ kind.keyword.toList) {c : Char}
    (notBlank : isBlank c = false) (notEquals : c ≠ '=') (rest : List Char) :
      element? (w ++ ' ' :: c :: rest) = none := by
  have next : trimLeft (' ' :: c :: rest) = c :: rest := by
    rw [trimLeft, List.dropWhile_cons_of_pos (by decide)]
    exact trimLeft_of_head notBlank
  rw [element?, name?_word h]
  simp only [next]
  rw [List.findSome?_eq_none_iff]
  intro kind hk
  split
  · next heq => exact absurd (List.cons.inj heq).1 notEquals
  · exact unread_of_word (isWord_keyword kind) h (ne kind hk) (c :: rest) _

theorem classify_group {name : List Char} (clean : IsClean name)
    (hs : Tells s ("group".toList ++ ' ' :: quote name)) :
    classify s false = .group name := by
  have word : IsWord "group".toList := isWord_keyword .group
  have closed : quoted? (quote name) = some (escape name, []) := closeQuote_escape clean []
  have group : group? ("group".toList ++ ' ' :: quote name) = some (.group (Text.unescape (escape name))) := by
    have blanks : dropBlanks? (' ' :: quote name) = some (quote name) := rfl
    rw [group?, dropWord?_append]
    simp only [Option.bind_eq_bind, Option.bind_some, blanks, closed]
    rfl
  have element : element? ("group".toList ++ ' ' :: quote name) = none :=
    element?_word word (by decide) (by decide) (by decide) (escape name ++ ['"'])
  rw [classify_word hs word (by decide), modelClause_eq hs, element, group, unescape_escape clean]
  rfl

theorem group?_word (h : IsWord w) (ne : w ≠ "group".toList) (rest : List Char) : group? (w ++ ' ' :: rest) = none :=
  unread_of_word (isWord_keyword .group) h ne rest _

/-- A line that declares by a word names just this word, or is not read. -/
theorem classify_declared {kind : ElementKind} (hk : kind ≠ .group) (h : IsWord w)
    (notReserved : String.ofList w ∉ reservedWords)
    (hs : Tells s (w ++ " = ".toList ++ (kind.keyword.toList ++ ' ' :: '"' :: rest))) :
    classify s false = ((closeQuote? rest).bind fun p =>
      (restOfLine? p.2).map fun tail => .element (some w) kind p.1 tail).getD .unknown := by
  have ne := ne_of_notReserved notReserved
  have split : w ++ " = ".toList ++ (kind.keyword.toList ++ ' ' :: '"' :: rest) =
      w ++ ' ' :: '=' :: ' ' :: (kind.keyword.toList ++ ' ' :: '"' :: rest) := List.append_assoc ..
  have group : group? (w ++ " = ".toList ++ (kind.keyword.toList ++ ' ' :: '"' :: rest)) = none :=
    split ▸ group?_word h (ne "group" (by decide)) _
  have relationship : relationship? (w ++ " = ".toList ++ (kind.keyword.toList ++ ' ' :: '"' :: rest)) = none := by
    rw [split, relationship?, name?_word h]
    rfl
  rw [classify_word (split ▸ hs) h (ne "workspace" (by decide)), modelClause_eq hs, element?_declared hk h, group,
    relationship, Option.or_none, Option.or_none]

theorem relationship?_words {source target : List Char} (hs : IsWord source) (ht : IsWord target)
    (rest : List Char) :
    relationship? (source ++ " -> ".toList ++ (target ++ ' ' :: rest)) =
      (restOfLine? (' ' :: rest)).map fun tail => .relationship (some source) target tail := by
  have start : source ++ " -> ".toList ++ (target ++ ' ' :: rest) =
      source ++ ' ' :: ("->".toList ++ ' ' :: (target ++ ' ' :: rest)) := by
    rw [List.append_assoc]
    rfl
  have arrow : trimLeft (' ' :: ("->".toList ++ ' ' :: (target ++ ' ' :: rest))) =
      "->".toList ++ ' ' :: (target ++ ' ' :: rest) := rfl
  have behind : trimLeft (' ' :: (target ++ ' ' :: rest)) = target ++ ' ' :: rest := by
    obtain ⟨c, cs, rfl, letter, _⟩ := ht
    exact trimLeft_of_head (letter_not_blank letter)
  rw [start, relationship?, name?_word hs]
  simp only [arrow, dropWord?_append, Option.bind_eq_bind, Option.bind_some, behind, name?_word ht]
  cases restOfLine? (' ' :: rest) <;> rfl

/-- A line that connects two words names just these words, or is not read. -/
theorem classify_connected {source target : List Char} (h : IsWord source)
    (notReserved : String.ofList source ∉ reservedWords) (ht : IsWord target)
    (hs : Tells s (source ++ " -> ".toList ++ (target ++ ' ' :: rest))) :
    classify s false =
      ((restOfLine? (' ' :: rest)).map fun tail => .relationship (some source) target tail).getD .unknown := by
  have ne := ne_of_notReserved notReserved
  have split : source ++ " -> ".toList ++ (target ++ ' ' :: rest) =
      source ++ ' ' :: '-' :: '>' :: ' ' :: (target ++ ' ' :: rest) := List.append_assoc ..
  have element : element? (source ++ " -> ".toList ++ (target ++ ' ' :: rest)) = none := by
    rw [split]
    refine element?_word h (fun kind hk => ne kind.keyword ?_) (by decide) (by decide) _
    revert hk
    cases kind <;> decide
  have group : group? (source ++ " -> ".toList ++ (target ++ ' ' :: rest)) = none :=
    split ▸ group?_word h (ne "group" (by decide)) _
  rw [classify_word (split ▸ hs) h (ne "workspace" (by decide)), modelClause_eq hs, element, group,
    relationship?_words h ht]
  rfl

theorem classify_relationship {source target : List Char} (h : IsWord source)
    (notReserved : String.ofList source ∉ reservedWords) (ht : IsWord target) (unbroken : IsUnbroken rest)
    (hs : Tells s (source ++ " -> ".toList ++ (target ++ ' ' :: rest))) :
    classify s false = .relationship (some source) target (' ' :: rest) := by
  have line : restOfLine? (' ' :: rest) = some (' ' :: rest) :=
    restOfLine?_of_unbroken (isUnbroken_cons.2 ⟨by decide, unbroken⟩)
  rw [classify_connected h notReserved ht hs, line]
  rfl

theorem classify_workspace (inViews : Bool) (unbroken : IsUnbroken rest)
    (hs : Tells s ("workspace".toList ++ ' ' :: rest)) : classify s inViews = .workspace (' ' :: rest) := by
  have line : restOfLine? (' ' :: rest) = some (' ' :: rest) :=
    restOfLine?_of_unbroken (isUnbroken_cons.2 ⟨by decide, unbroken⟩)
  have keyword : keyword? "workspace".toList s.body = some (' ' :: rest) := by
    rw [hs.body, keyword?, dropWord?_append]
    have ends : isWordChar ' ' = false := by decide
    simp only [Option.bind_eq_bind, Option.bind_some, ends, Bool.false_eq_true, if_false, line]
  simp only [classify, hs.notClose, body_ne hs.body "model".toList (by decide),
    body_ne hs.body "views".toList (by decide), body_ne hs.body "styles".toList (by decide), keyword,
      Bool.false_eq_true, if_false]

end Clauses

end Blueprint.Dsl
