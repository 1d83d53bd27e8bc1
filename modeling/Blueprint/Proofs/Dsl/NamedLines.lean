/-
  Blueprint.Proofs.Dsl.NamedLines — the lines that name elements by their identifiers (`IdentifierAllocator` and
  then `classify_statement`).

  An element is named where it is declared, where a relationship connects it, and where a view records its
  position. If its identifier is a word, the reader finds just this identifier there, whatever the texts
  behind it are; they decide only if the line is read at all, and clean ones let it be.

  An id can be kept that is no word: the check lets one line feed at the end pass. Such an identifier breaks
  the line behind its word, so that the reader finds another one there, if any.

  Proved: identifiers are words, and lines that name elements by them are read with these identifiers, just if
  no id that is kept ends in a line feed (`namesHold_iff`); a person whose id does (`not_namesHold_person`).
-/

import Blueprint.Proofs.Dsl.ViewSection
import Blueprint.Proofs.Identifier.Kept

namespace Blueprint

open Text

/-! ## Words -/

theorem Allocation.isWord_ofElements_iff {es : List Element} :
    (∀ id i, (ofElements es).get? id = some i → IsWord i.toList) ↔
      ∀ e ∈ es, isIdentifier e.id = true → e.id.toList.getLast? ≠ some '\n' := by
  have sound := sound_ofElements es
  constructor
  · intro words e he able feed
    have word := words e.id e.id (get?_ofElements_of_able he able)
    have char := word.forall_mem '\n' (List.mem_of_getLast? feed)
    exact absurd char (by decide)
  · intro unfed id i hi
    rcases sound.words id i hi with word | ⟨_, able⟩
    · exact word
    · obtain ⟨e, he, rfl⟩ := List.mem_map.1 (mem_of_get?_ofElements hi)
      exact sound.isWord hi (unfed e he able)

theorem Allocation.names_of_words {es : List Element}
    (words : ∀ id i, (ofElements es).get? id = some i → IsWord i.toList) : (ofElements es).Names es := by
  have sound := sound_ofElements es
  refine ⟨fun e he => ?_, fun _ _ => mem_of_get?_ofElements, sound.injective⟩
  obtain ⟨i, hi⟩ := exists_get?_ofElements he
  exact ⟨i, hi, words e.id i hi, sound.notReserved e.id i hi⟩

namespace Dsl

variable {s : Statement} {w p line rest : List Char}

/-! ## Statements that begin as a line does -/

/-- The line up to and including its first quote. -/
def front (line : List Char) : List Char := line.takeWhile (· != '"') ++ ['"']

/-- The statement begins as the line does, up to the first text in it. -/
structure Statement.BeginsAs (s : Statement) (line : List Char) : Prop where
  live : s.fromComment = false
  front : front line <+: s.text

theorem front_append (bare : IsBare w) (rest : List Char) : front (w ++ '"' :: rest) = w ++ ['"'] := by
  have all : ∀ c ∈ w, (c != '"') = true := fun c hc => bne_iff_ne.2 (bare c hc).1
  rw [front, List.takeWhile_append_of_pos all, List.takeWhile_cons_of_neg (by simp), List.append_nil]

/-- A statement that begins as a line does has the same words up to the first text. -/
theorem Statement.BeginsAs.tells (h : s.BeginsAs (w ++ '"' :: rest)) (bare : IsBare w) :
    ∃ behind, Tells s (w ++ '"' :: behind) := by
  have starts := h.front
  rw [front_append bare] at starts
  obtain ⟨behind, body⟩ := prefix_body starts (List.getLast?_concat) (by decide)
  refine ⟨behind, by rw [← body, List.append_assoc]; rfl, ?_, h.live⟩
  rw [Statement.isClose, beq_eq_false_iff_ne]
  intro close
  have quote : '"' ∈ s.text := starts.subset (List.mem_append_right _ (List.mem_singleton.2 rfl))
  rw [close] at quote
  exact absurd quote (by decide)

theorem prefix_trim (trimmed : IsTrimmed p) {cs : List Char} (h : p <+: cs) : p <+: trim cs := by
  obtain ⟨rest, rfl⟩ := h
  obtain ⟨c, hc, notBlank⟩ := trimmed.head
  obtain ⟨d, hd, notBlank'⟩ := trimmed.last
  obtain ⟨ds, rfl⟩ := List.head?_eq_some_iff.1 hc
  rw [trim, List.cons_append, trimLeft_of_head notBlank, ← List.cons_append]
  exact prefix_trimRight hd notBlank' rest

theorem part_of_prefix (trimmed : IsTrimmed p) {cs : List Char} (h : p <+: cs) : ∃ t, part cs = [t] ∧ p <+: t := by
  have starts := prefix_trim trimmed h
  obtain ⟨c, hc, _⟩ := trimmed.head
  have more : (trim cs).isEmpty = false := by
    obtain ⟨ds, rfl⟩ := List.head?_eq_some_iff.1 hc
    obtain ⟨rest, text⟩ := starts
    rw [← text]
    rfl
  refine ⟨trim cs, ?_, starts⟩
  rw [part, more]
  rfl

/-- Wherever a line is cut behind a text, the first part begins with the text. -/
theorem cut_of_prefix (trimmed : IsTrimmed p) {current : List Char} (h : p <+: current.reverse) (q : Quoting)
    (cs : List Char) : ∃ t ts, cut q current cs = t :: ts ∧ p <+: t := by
  induction cs generalizing q current with
  | nil =>
    obtain ⟨t, one, starts⟩ := part_of_prefix trimmed h
    exact ⟨t, [], one, starts⟩
  | cons c cs ih =>
    have longer : p <+: (c :: current).reverse := by
      rw [List.reverse_cons]
      exact h.trans (List.prefix_append _ _)
    rw [cut]
    split
    · obtain ⟨t, one, starts⟩ := part_of_prefix trimmed longer
      exact ⟨t, _, by rw [one]; rfl, starts⟩
    · split
      · obtain ⟨t, one, starts⟩ := part_of_prefix trimmed h
        exact ⟨t, _, by rw [one]; rfl, starts⟩
      · exact ih longer _

/-- The first statement of a line begins as the line does, if words stand in front of its first text. -/
theorem exists_beginsAs (first : ∃ c, w.head? = some c ∧ isAsciiLetter c = true) (bare : IsBare w)
    {text : List Char} (starts : w ++ '"' :: rest <+: text) (n : Nat) :
    ∃ s ss, statementsOf n text = s :: ss ∧ s.BeginsAs (w ++ '"' :: rest) := by
  obtain ⟨c, hc, letter⟩ := first
  obtain ⟨more, rfl⟩ := starts
  have head : (w ++ ['"']).head? = some c := by
    rw [List.head?_append, hc]
    rfl
  have live : live? ((w ++ ['"']) ++ (rest ++ more)) = some ((w ++ ['"']) ++ (rest ++ more), false) := by
    refine live?_of_letter ?_ letter
    rw [List.head?_append, head]
    rfl
  have quoted : Quoting.outside.behind? (w ++ ['"']) = some .inside := by
    rw [Quoting.behind?_append, bare.flat]
    rfl
  have trimmed : IsTrimmed (w ++ ['"']) := ⟨⟨c, head, letter_not_blank letter⟩, ⟨'"', List.getLast?_concat, by decide⟩⟩
  have reversed : w ++ ['"'] <+: ((w ++ ['"']).reverse ++ []).reverse := by
    rw [List.append_nil, List.reverse_reverse]
  obtain ⟨t, ts, parts, begins⟩ := cut_of_prefix trimmed reversed .inside (rest ++ more)
  have whole : (w ++ '"' :: rest) ++ more = (w ++ ['"']) ++ (rest ++ more) := by simp
  have statements : statementsOf n ((w ++ '"' :: rest) ++ more) =
      (t :: ts).map fun t => { text := t, line := n, fromComment := false } := by
    rw [whole, statementsOf, live]
    simp only [cutAtBraces, cut_behind quoted, parts]
  exact ⟨_, _, statements, rfl, front_append bare rest ▸ begins⟩

/-! ## Naming lines -/

/-- The line is one statement, and this is what it says. -/
def IsReadAs (line : List Char) (inViews : Bool) (clause : Clause) : Prop :=
  ∀ n, ∃ s, statementsOf n line = [s] ∧ classify s inViews = clause

/-- The first statement of the line begins as the line does, and whatever the texts are, a statement that does so
can be read in one of these ways only. -/
structure CanSay (line : List Char) (clauses : Clause → Prop) : Prop where
  starts : ∀ text, line <+: text → ∀ n, ∃ s ss, statementsOf n text = s :: ss ∧ s.BeginsAs line
  only : ∀ s : Statement, s.BeginsAs line → classify s false = .unknown ∨ clauses (classify s false)

/-- The line declares the element by the identifier, and by no other; clean texts let it be read, and so with the
brace that opens the element's block. -/
structure DeclaresBy (i : String) (e : Element) (line : List Char) : Prop where
  named : CanSay line fun clause => ∃ name rest, clause = .element (some i.toList) e.kind name rest
  read : AllClean (declaredTexts e) → ∃ name rest, IsReadAs line false (.element (some i.toList) e.kind name rest) ∧
    IsReadAs (opening line) false (.element (some i.toList) e.kind name rest)

/-- The line connects what the identifiers name, and nothing else; clean texts let it be read. -/
structure ConnectsBy (i j : String) (r : Relationship) (line : List Char) : Prop where
  named : CanSay line fun clause => ∃ rest, clause = .relationship (some i.toList) j.toList rest
  read : AllClean (connectionValues r) → ∃ rest, IsReadAs line false (.relationship (some i.toList) j.toList rest)

/-- Identifiers are words, and wherever an element is named in a written line, its identifier is read. -/
structure NamesHold (ws : Workspace) (names : Allocation) : Prop where
  words : ∀ id i, names.get? id = some i → IsWord i.toList
  declared : ∀ e ∈ ws.elements, e.kind ≠ .group →
    ∃ i, names.get? e.id = some i ∧ DeclaresBy i e (Builder.elementHeader names e)
  connected : ∀ r ∈ ws.relationships, ∀ line, relationshipLine? ws names r = some (.line line) →
    ∃ i j, names.get? r.sourceId = some i ∧ names.get? r.targetId = some j ∧ ConnectsBy i j r line
  positioned : ∀ e ∈ ws.elements, ∀ line, positionLine names e = .ok (.line line) →
    ∃ i x y, names.get? e.id = some i ∧ IsReadAs line true (.elementPosition i.toList x y)

theorem isReadAs_line (solid : Solid line) {clause : Clause} (h : ∀ s, Tells s line → classify s false = clause) :
    IsReadAs line false clause :=
  fun n => ⟨_, solid.statements n, h _ (tells_line solid n)⟩

theorem isReadAs_opening (solid : Solid line) {clause : Clause} (h : ∀ s, Tells s line → classify s false = clause) :
    IsReadAs (opening line) false clause :=
  fun n => ⟨_, solid.statements_opening n, h _ (tells_opening solid n)⟩

variable {ws : Workspace} {names : Allocation} {e : Element} {r : Relationship} {i j : String}

theorem canSay_of_words {clauses : Clause → Prop} (first : ∃ c, w.head? = some c ∧ isAsciiLetter c = true)
    (bare : IsBare w)
    (only : ∀ s behind, Tells s (w ++ '"' :: behind) → classify s false = .unknown ∨ clauses (classify s false))
    (rest : List Char) : CanSay (w ++ '"' :: rest) clauses := by
  refine ⟨fun text starts n => exists_beginsAs first bare starts n, fun s begins => ?_⟩
  obtain ⟨behind, tells⟩ := begins.tells bare
  exact only s behind tells

theorem declaresBy_elementHeader (hk : e.kind ≠ .group) (hi : names.get? e.id = some i) (word : IsWord i.toList)
    (notReserved : i ∉ reservedWords) : DeclaresBy i e (Builder.elementHeader names e) := by
  have spelled : String.ofList i.toList ∉ reservedWords := String.ofList_toList ▸ notReserved
  refine ⟨?_, fun clean => ?_⟩
  · have split : ∀ rest, i.toList ++ " = ".toList ++ (e.kind.keyword.toList ++ ' ' :: '"' :: rest) =
        (i.toList ++ (" = ".toList ++ (e.kind.keyword.toList ++ [' ']))) ++ '"' :: rest := by simp
    have first : ∃ c, (i.toList ++ (" = ".toList ++ (e.kind.keyword.toList ++ [' ']))).head? = some c ∧
        isAsciiLetter c = true := by
      obtain ⟨c, hc, letter⟩ := word.head
      exact ⟨c, by rw [List.head?_append, hc]; rfl, letter⟩
    have equals : IsBare " = ".toList := by decide
    have blank : IsBare [' '] := by decide
    have bare := (isBare_word word).append (equals.append ((isBare_word (isWord_keyword e.kind)).append blank))
    rw [Builder.elementHeader_eq hi, quote, List.cons_append, split]
    refine canSay_of_words first bare (fun s behind tells => ?_) _
    rw [classify_declared hk word spelled (split behind ▸ tells)]
    cases closeQuote? behind with
    | none => exact .inl rfl
    | some p =>
      obtain ⟨name, rest⟩ := p
      cases line : restOfLine? rest with
      | none => exact .inl (by simp [line])
      | some tail => exact .inr ⟨name, tail, by simp [line]⟩
  · have solid := Builder.solid_elementHeader clean hk hi word
    have said := fun s (tells : Tells s (Builder.elementHeader names e)) =>
      Builder.classify_elementHeader clean hk hi word notReserved tells
    exact ⟨_, _, isReadAs_line solid said, isReadAs_opening solid said⟩

theorem connectsBy_connectionLine (source : IsWord i.toList ∧ i ∉ reservedWords) (target : IsWord j.toList) :
    ConnectsBy i j r (connectionLine i j r) := by
  have spelled : String.ofList i.toList ∉ reservedWords := String.ofList_toList ▸ source.2
  refine ⟨?_, fun clean => ?_⟩
  · have split : ∀ rest, i.toList ++ " -> ".toList ++ (j.toList ++ ' ' :: '"' :: rest) =
        (i.toList ++ (" -> ".toList ++ (j.toList ++ [' ']))) ++ '"' :: rest := by simp
    have first : ∃ c, (i.toList ++ (" -> ".toList ++ (j.toList ++ [' ']))).head? = some c ∧ isAsciiLetter c = true := by
      obtain ⟨c, hc, letter⟩ := source.1.head
      exact ⟨c, by rw [List.head?_append, hc]; rfl, letter⟩
    have arrow : IsBare " -> ".toList := by decide
    have blank : IsBare [' '] := by decide
    have bare := (isBare_word source.1).append (arrow.append ((isBare_word target).append blank))
    rw [connectionLine, connectionValues, arguments_cons, quote, List.cons_append, split]
    refine canSay_of_words first bare (fun s behind tells => ?_) _
    rw [classify_connected source.1 spelled target (split behind ▸ tells)]
    cases restOfLine? (' ' :: '"' :: behind) with
    | none => exact .inl rfl
    | some tail => exact .inr ⟨tail, rfl⟩
  · have solid := solid_connectionLine clean source.1 target
    exact ⟨_, isReadAs_line solid fun s tells => Builder.classify_connectionLine clean source target tells⟩

theorem isReadAs_positionLine (hi : names.get? e.id = some i) (word : IsWord i.toList)
    (h : positionLine names e = .ok (.line line)) : ∃ x y, IsReadAs line true (.elementPosition i.toList x y) := by
  obtain ⟨_, x, rest⟩ := bind_eq_ok.1 h
  obtain ⟨_, y, _⟩ := bind_eq_ok.1 rest
  have hx := finite_of_wholeText x
  have hy := finite_of_wholeText y
  rw [positionLine_eq hx hy, recordLine, identifierOf, hi] at h
  rw [← Outline.line.inj (Except.ok.inj h)]
  exact ⟨_, _, fun n => ⟨_, statementsOf_note (isNote_recordText word hy) n, classify_record word hx hy n⟩⟩

/-! ## When they hold -/

/-- Identifiers are words and are read where elements are named, just if no id that is kept ends in a line feed. -/
theorem namesHold_iff (ws : Workspace) :
    NamesHold ws (Allocation.ofElements ws.elements) ↔
      ∀ e ∈ ws.elements, isIdentifier e.id = true → e.id.toList.getLast? ≠ some '\n' := by
  rw [← Allocation.isWord_ofElements_iff]
  refine ⟨fun h => h.words, fun words => ?_⟩
  have named := (Allocation.names_of_words words).named
  have notReserved := (Allocation.sound_ofElements ws.elements).notReserved
  refine ⟨words, fun e he hk => ?_, fun r _ line written => ?_, fun e he line written => ?_⟩
  · obtain ⟨i, hi, word, unreserved⟩ := named e he
    exact ⟨i, hi, declaresBy_elementHeader hk hi word unreserved⟩
  · obtain ⟨i, j, hi, hj, same⟩ := eq_of_relationshipLine? written
    cases same
    exact ⟨i, j, hi, hj, connectsBy_connectionLine ⟨words _ i hi, notReserved _ i hi⟩ (words _ j hj)⟩
  · obtain ⟨i, hi, word, _⟩ := named e he
    obtain ⟨x, y, read⟩ := isReadAs_positionLine hi word written
    exact ⟨i, x, y, hi, read⟩

/-- A person whose id passes for an identifier and ends in a line feed. -/
def hastyPerson : Element := { id := "a\n", kind := .person, name := "Ann" }

/-- The person is declared over two lines, and neither of them is read. -/
theorem not_namesHold_person :
    (Allocation.ofElements [hastyPerson]).identifiers = ["a\n"] ∧
      (tokenize (String.ofList (Builder.elementHeader (Allocation.ofElements [hastyPerson]) hastyPerson))).map
          (classify · false) = [.unknown, .unknown] ∧
      ¬ NamesHold { name := "W", description := "", elements := [hastyPerson] } (Allocation.ofElements [hastyPerson]) := by
  refine ⟨by decide +kernel, by decide +kernel, fun holds => ?_⟩
  have kept := Allocation.get?_ofElements_of_able (List.mem_singleton_self hastyPerson) (by decide)
  have word := holds.words _ _ kept
  exact absurd word (by decide)

end Dsl

end Blueprint
