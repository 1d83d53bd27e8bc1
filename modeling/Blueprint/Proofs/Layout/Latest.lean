/-
  Blueprint.Proofs.Layout.Latest — the latest record that applies to a name tells its position
  (`PositionStore`).

  A record applies to a name if its identifier is the name or a dotted suffix of it. It is stored under its
  identifier and copied to every qualified name that ends with it, so for a qualified name each record that
  applies writes to the very name, and the last one stays. If none applies, the name was never written to.
  Its last part was not either, for copies go to names with a dot; and whatever was stored under a dotted
  suffix of the name belongs to a record that applies. What is left of the three ways to look a name up is
  one half of the last: a stored name that ends with the name looked for.

  Proved: what is stored under a name at last (`find?_recordAll`), and which name was stored first
  (`find?_keys_recordAll`); hence what is found for a qualified name (`lookup_recordAll_of_registered`).
-/

import Blueprint.Proofs.Layout.Positions
import Mathlib.Data.List.Find
import Mathlib.Data.List.Induction

namespace Blueprint

/-! ## Dotted suffixes -/

theorem isDottedSuffix_trans {s t u : String} (h : isDottedSuffix s t = true) (h' : isDottedSuffix t u = true) :
    isDottedSuffix s u = true := by
  rw [isDottedSuffix_iff] at h h' ⊢
  exact h.trans ((List.suffix_cons '.' t.toList).trans h')

/-- The last part of a dotted name is behind a dot. -/
theorem isDottedSuffix_lastPart {s : String} (dotted : '.' ∈ s.toList) : isDottedSuffix (lastPart s) s = true := by
  have split : s.toList.reverse.takeWhile (· != '.') ++ s.toList.reverse.dropWhile (· != '.') = s.toList.reverse :=
    List.takeWhile_append_dropWhile
  have stops : s.toList.reverse.dropWhile (· != '.') ≠ [] := fun none =>
    absurd (List.dropWhile_eq_nil_iff.1 none '.' (List.mem_reverse.2 dotted)) (by decide)
  obtain ⟨c, front, behind⟩ := List.exists_cons_of_ne_nil stops
  have dot : c = '.' := by
    have head := List.head?_dropWhile_not (· != '.') s.toList.reverse
    rw [behind] at head
    simpa using head
  rw [isDottedSuffix_iff, lastPart, String.toList_ofList, ← List.reverse_prefix, List.reverse_cons,
    List.reverse_reverse]
  rw [behind, dot] at split
  exact ⟨front, (List.append_assoc _ ['.'] front).trans split⟩

/-! ## Entries in order -/

namespace Dictionary

variable {α : Type}

/-- A member that comes again is never the first of a kind. -/
theorem find?_append_cons_of_mem {p : String → Bool} {xs : List String} {x : String} (known : x ∈ xs)
    (ys : List String) : (xs ++ x :: ys).find? p = (xs ++ ys).find? p := by
  rw [List.find?_append, List.find?_append, List.find?_cons]
  cases first : xs.find? p with
  | some y => rfl
  | none =>
    have no : p x = false := by simpa using List.find?_eq_none.1 first x known
    rw [no]

/-- The first key of a kind is the first of that kind that was written to. -/
theorem find?_keys_insertAll (p : String → Bool) (d : Dictionary α) (value : α) (keys later : List String) :
    ((keys.foldl (fun d key => d.insert key value) d).keys ++ later).find? p = (d.keys ++ (keys ++ later)).find? p := by
  induction keys generalizing d with
  | nil => rfl
  | cons key keys ih =>
    rw [List.foldl_cons, ih, keys_insert]
    split
    · next known => rw [List.cons_append, find?_append_cons_of_mem known]
    · rw [List.append_assoc, List.singleton_append, List.cons_append]

/-- The value of the first entry whose key is of a kind is what is found for that key. -/
theorem map_find?_entries (p : String → Bool) (entries : List (String × α)) :
    (entries.find? fun e => p e.1).map (·.2) = ((entries.map (·.1)).find? p).bind fun k => lookup k entries := by
  induction entries with
  | nil => rfl
  | cons e rest ih =>
    obtain ⟨k, v⟩ := e
    rw [List.map_cons, List.find?_cons, List.find?_cons]
    cases here : p k with
    | true => simp [lookup]
    | false =>
      rw [ih]
      cases first : (rest.map (·.1)).find? p with
      | none => rfl
      | some j =>
        have other : k ≠ j := by
          rintro rfl
          exact absurd (List.find?_some first) (by simp [here])
        simp [lookup, other]

end Dictionary

namespace Positions

/-! ## What is stored -/

/-- A record for the identifier tells the position of the name. -/
def AppliesTo (name identifier : String) : Prop := identifier = name ∨ '.' :: identifier.toList <:+ name.toList

instance (name identifier : String) : Decidable (AppliesTo name identifier) :=
  inferInstanceAs (Decidable (_ ∨ _))

/-- The position of the last record that applies to the name. -/
def latest? (records : List (String × Position)) (name : String) : Option Position :=
  (records.reverse.find? fun r => AppliesTo name r.1).map (·.2)

/-- The names under which a record for the identifier is stored, in order. -/
def writtenNames (table : IdentifierTable) (identifier : String) : List String :=
  identifier :: table.namesEndingWith identifier

/-- The names under which the records are stored, in the order in which they are. -/
def storedNames (table : IdentifierTable) (records : List (String × Position)) : List String :=
  records.flatMap fun r => writtenNames table r.1

/-- The position of the last record that is stored under the name. -/
def stored? (table : IdentifierTable) (records : List (String × Position)) (name : String) : Option Position :=
  (records.reverse.find? fun r => name ∈ writtenNames table r.1).map (·.2)

variable {table : IdentifierTable} {records : List (String × Position)} {name identifier : String}

theorem appliesTo_iff : AppliesTo name identifier ↔ identifier = name ∨ isDottedSuffix identifier name = true := by
  rw [AppliesTo, isDottedSuffix_iff]

theorem recordAll_concat (table : IdentifierTable) (ps : Positions) (records : List (String × Position))
    (r : String × Position) :
    recordAll table ps (records ++ [r]) = (recordAll table ps records).record table r.1 r.2 := by
  rw [recordAll, List.foldl_append]
  rfl

theorem find?_recordAll (table : IdentifierTable) (records : List (String × Position)) (k : String) :
    Dictionary.find? (recordAll table {} records) k = stored? table records k := by
  induction records using List.reverseRecOn with
  | nil => rfl
  | append_singleton records r ih =>
    rw [recordAll_concat, find?_record, ih, stored?, stored?, List.reverse_concat, List.find?_cons]
    simp only [writtenNames, List.mem_cons]
    by_cases here : k = r.1 ∨ k ∈ table.namesEndingWith r.1
    · rw [if_pos here, decide_eq_true here]
      rfl
    · rw [if_neg here, decide_eq_false here]

/-- The first stored name of a kind, in the order of storing. -/
theorem find?_keys_recordAll (table : IdentifierTable) (records : List (String × Position)) (p : String → Bool) :
    (Dictionary.keys (recordAll table {} records)).find? p = (storedNames table records).find? p := by
  have all : ∀ (ps : Positions) (records : List (String × Position)),
      (Dictionary.keys (recordAll table ps records)).find? p =
        (Dictionary.keys ps ++ storedNames table records).find? p := by
    intro ps records
    induction records generalizing ps with
    | nil => rw [storedNames, List.flatMap_nil, List.append_nil]; rfl
    | cons r records ih =>
      have step : Positions.record ps table r.1 r.2 =
          (writtenNames table r.1).foldl (fun ps name => Dictionary.insert ps name r.2) ps := rfl
      rw [recordAll, List.foldl_cons, ← recordAll, ih, step, Dictionary.find?_keys_insertAll, storedNames, storedNames,
        List.flatMap_cons]
  exact all {} records

/-! ## What is found -/

/-- Whatever is stored under a qualified name is stored by the records that apply to it. -/
theorem stored?_of_registered (registered : name ∈ table.qualified.keys) (records : List (String × Position)) :
    stored? table records name = latest? records name := by
  have same : ∀ identifier, name ∈ writtenNames table identifier ↔ AppliesTo name identifier := by
    intro identifier
    rw [writtenNames, List.mem_cons, appliesTo_iff, eq_comm, IdentifierTable.namesEndingWith, List.mem_filter]
    simp [registered]
  simp only [stored?, latest?, same]

theorem applies_of_mem_storedNames {stored : String} (h : stored ∈ storedNames table records)
    (suffix : isDottedSuffix stored name = true) : ∃ r ∈ records, AppliesTo name r.1 := by
  obtain ⟨r, hr, written⟩ := List.mem_flatMap.1 h
  refine ⟨r, hr, appliesTo_iff.2 (.inr ?_)⟩
  rcases List.mem_cons.1 written with rfl | copied
  · exact suffix
  · exact isDottedSuffix_trans (List.mem_filter.1 copied).2 suffix

theorem latest?_eq_none : latest? records name = none ↔ ∀ r ∈ records, ¬ AppliesTo name r.1 := by
  simp [latest?]

theorem mem_storedNames_of_stored? {k : String} {p : Position} (h : stored? table records k = some p) :
    k ∈ storedNames table records := by
  obtain ⟨r, found, _⟩ := Option.map_eq_some_iff.1 h
  have member := List.mem_reverse.1 (List.mem_of_find?_eq_some found)
  exact List.mem_flatMap.2 ⟨r, member, by simpa using List.find?_some found⟩

/-- A qualified name has the position of the last record that applies to it. If there is none, it has the one that
is stored at last under the first stored name of which it is a dotted suffix. -/
theorem lookup_recordAll_of_registered (table : IdentifierTable) (records : List (String × Position)) {name : String}
    (registered : name ∈ table.qualified.keys) :
    lookup (recordAll table {} records) name =
      (latest? records name).or
        (((storedNames table records).find? fun stored => '.' :: name.toList <:+ stored.toList).bind
          (stored? table records)) := by
  have direct : Dictionary.find? (recordAll table {} records) name = latest? records name :=
    (find?_recordAll table records name).trans (stored?_of_registered registered records)
  rw [lookup, direct]
  cases latest : latest? records name with
  | some p => rfl
  | none =>
    have noneApplies := latest?_eq_none.1 latest
    have noneBehind : ∀ stored ∈ storedNames table records, isDottedSuffix stored name = false := by
      intro stored member
      refine Bool.eq_false_iff.2 fun suffix => ?_
      obtain ⟨r, hr, applies⟩ := applies_of_mem_storedNames member suffix
      exact noneApplies r hr applies
    have bySegment : (lastSegment? name).bind (Dictionary.find? (recordAll table {} records)) = none := by
      rw [lastSegment?_eq]
      split
      · next dotted =>
        refine Option.eq_none_iff_forall_ne_some.2 fun p found => ?_
        rw [Option.bind_some, find?_recordAll] at found
        have behind := noneBehind _ (mem_storedNames_of_stored? found)
        exact Bool.eq_false_iff.1 behind (isDottedSuffix_lastPart dotted)
      · rfl
    -- of the names that are related to this one, only those that end with it were ever stored
    have related : ∀ stored ∈ storedNames table records,
        (isDottedSuffix stored name || isDottedSuffix name stored) = decide ('.' :: name.toList <:+ stored.toList) := by
      intro stored member
      rw [noneBehind stored member, Bool.false_or, Bool.eq_iff_iff, isDottedSuffix_iff, decide_eq_true_iff]
    have bySuffix := Dictionary.map_find?_entries (fun k => isDottedSuffix k name || isDottedSuffix name k)
      (recordAll table {} records).entries
    have order := find?_keys_recordAll table records fun k => isDottedSuffix k name || isDottedSuffix name k
    rw [bySegment, bySuffix, ← Dictionary.keys, order, List.find?_congr related, Option.none_or, Option.none_or]
    exact congrArg _ (funext fun k => find?_recordAll table records k)

/-- A container in a system. -/
def storefront : IdentifierTable :=
  (({} : IdentifierTable).register "shop" "shop" "1").register "web" "shop.web" "2"

/-- The corner that is so far to the right. -/
def along (x : Nat) : Position := ⟨.finite false x 0, .zero⟩

/-- The container is recorded three times; no record is for the system, but one is for a name that ends with it. -/
def rounds : List (String × Position) :=
  [("web", along 1), ("old.shop", along 2), ("shop.web", along 3), ("old.shop", along 4), ("web", along 5)]

theorem lookup_recordAll_storefront :
    "shop.web" ∈ storefront.qualified.keys ∧ "shop" ∈ storefront.qualified.keys ∧
      lookup (recordAll storefront {} rounds) "shop.web" = some (along 5) ∧
      lookup (recordAll storefront {} rounds) "shop" = some (along 4) := by
  have web : "shop.web" ∈ storefront.qualified.keys := by decide
  have shop : "shop" ∈ storefront.qualified.keys := by decide
  exact ⟨web, shop, (lookup_recordAll_of_registered storefront rounds web).trans (by decide),
    (lookup_recordAll_of_registered storefront rounds shop).trans (by decide)⟩

end Positions

end Blueprint
