/-
  Blueprint.Proofs.Layout.Positions — what is found among recorded positions.

  A position is recorded under a bare identifier and under qualified names that end with it, so the last
  part of every name tells for which identifier it was recorded. A name is looked for in three ways, and
  each leads only to names with the same last part. So where every identifier is recorded with one position,
  a name leads to the position of its last part, whatever qualifies it.

  Proved: names that end alike have the same last part (`lastPart_of_isDottedSuffix`); what is found after
  any records (`lookup_recordAll`).
-/

import Blueprint.Layout.Positions
import Mathlib.Data.List.TakeWhile

namespace Blueprint

/-! ## Last parts -/

/-- The text behind the last dot, or the whole text without one. -/
def lastPart (s : String) : String := String.ofList (s.toList.reverse.takeWhile (· != '.')).reverse

theorem lastPart_of_bare {s : String} (h : '.' ∉ s.toList) : lastPart s = s := by
  have all : s.toList.reverse.takeWhile (· != '.') = s.toList.reverse := by
    rw [List.takeWhile_eq_self_iff]
    intro c hc
    rw [bne_iff_ne]
    rintro rfl
    exact h (List.mem_reverse.1 hc)
  rw [lastPart, all, List.reverse_reverse, String.ofList_toList]

theorem bare_lastPart (s : String) : '.' ∉ (lastPart s).toList := by
  rw [lastPart, String.toList_ofList, List.mem_reverse]
  intro dot
  exact absurd (List.all_eq_true.1 List.all_takeWhile '.' dot) (by decide)

theorem lastSegment?_eq (s : String) : lastSegment? s = if '.' ∈ s.toList then some (lastPart s) else none := by
  simp [lastSegment?, lastPart]

theorem lastPart_of_isDottedSuffix {short full : String} (h : isDottedSuffix short full = true) :
    lastPart full = lastPart short := by
  obtain ⟨front, split⟩ := isDottedSuffix_iff.1 h
  have reversed : full.toList.reverse = short.toList.reverse ++ '.' :: front.reverse := by
    rw [← split, List.reverse_append, List.reverse_cons, List.append_assoc]
    rfl
  have same : full.toList.reverse.takeWhile (· != '.') = short.toList.reverse.takeWhile (· != '.') := by
    rw [reversed, List.takeWhile_append]
    split
    · rw [List.takeWhile_cons_of_neg (by decide), List.append_nil]
      next whole => exact ((List.takeWhile_prefix _).eq_of_length whole).symm
    · rfl
  rw [lastPart, lastPart, same]

/-! ## Entries -/

namespace Dictionary

variable {α : Type} {key : String} {value : α}

theorem mem_write {entries : List (String × α)} {e : String × α} (h : e ∈ write key value entries) :
    e = (key, value) ∨ e ∈ entries := by
  induction entries with
  | nil => exact .inl (List.mem_singleton.1 h)
  | cons f rest ih =>
    obtain ⟨k, v⟩ := f
    rw [write] at h
    split at h
    · next same =>
      rcases List.mem_cons.1 h with rfl | h
      · exact .inl (by rw [same])
      · exact .inr (List.mem_cons_of_mem _ h)
    · rcases List.mem_cons.1 h with rfl | h
      · exact .inr List.mem_cons_self
      · exact (ih h).imp_right (List.mem_cons_of_mem _)

theorem mem_of_lookup {entries : List (String × α)} (h : lookup key entries = some value) : (key, value) ∈ entries := by
  induction entries with
  | nil => cases h
  | cons f rest ih =>
    obtain ⟨k, v⟩ := f
    rw [lookup] at h
    split at h
    · next same =>
      cases h
      exact same ▸ List.mem_cons_self
    · exact List.mem_cons_of_mem _ (ih h)

/-- Several keys get one value. -/
theorem find?_insertAll (d : Dictionary α) (value : α) (keys : List String) (k : String) :
    (keys.foldl (fun d key => d.insert key value) d).find? k = if k ∈ keys then some value else d.find? k := by
  induction keys generalizing d with
  | nil => rfl
  | cons key keys ih =>
    rw [List.foldl_cons, ih, find?_insert]
    by_cases later : k ∈ keys
    · rw [if_pos later, if_pos (List.mem_cons_of_mem _ later)]
    · rw [if_neg later]
      simp [later, eq_comm]

theorem mem_insertAll {d : Dictionary α} {keys : List String} {e : String × α}
    (h : e ∈ (keys.foldl (fun d key => d.insert key value) d).entries) :
    (e.1 ∈ keys ∧ e.2 = value) ∨ e ∈ d.entries := by
  induction keys generalizing d with
  | nil => exact .inr h
  | cons key keys ih =>
    rcases ih h with ⟨later, same⟩ | h
    · exact .inl ⟨List.mem_cons_of_mem _ later, same⟩
    · rcases mem_write h with rfl | h
      · exact .inl ⟨List.mem_cons_self, rfl⟩
      · exact .inr h

end Dictionary

namespace Positions

/-! ## Records -/

variable {table : IdentifierTable} {ps : Positions} {identifier : String} {p : Position}

theorem find?_record (ps : Positions) (table : IdentifierTable) (identifier : String) (p : Position) (k : String) :
    Dictionary.find? (ps.record table identifier p) k =
      if k = identifier ∨ k ∈ table.namesEndingWith identifier then some p else Dictionary.find? ps k := by
  rw [record, Dictionary.find?_insertAll, Dictionary.find?_insert]
  by_cases named : k ∈ table.namesEndingWith identifier
  · rw [if_pos named, if_pos (.inr named)]
  · rw [if_neg named]
    simp [named, eq_comm]

/-- Whatever a position is recorded under has the identifier's last part. -/
theorem mem_record {e : String × Position} (bare : '.' ∉ identifier.toList)
    (h : e ∈ (ps.record table identifier p).entries) :
    (lastPart e.1 = identifier ∧ e.2 = p) ∨ e ∈ ps.entries := by
  have last := lastPart_of_bare bare
  rcases Dictionary.mem_insertAll h with ⟨named, same⟩ | h
  · exact .inl ⟨(lastPart_of_isDottedSuffix (List.mem_filter.1 named).2).trans last, same⟩
  · rcases Dictionary.mem_write h with rfl | h
    · exact .inl ⟨last, rfl⟩
    · exact .inr h

/-- Records are for bare identifiers, and the same one for the same identifier. -/
structure Agree (records : List (String × Position)) : Prop where
  bare : ∀ r ∈ records, '.' ∉ r.1.toList
  single : ∀ r ∈ records, ∀ s ∈ records, r.1 = s.1 → r.2 = s.2

/-- Every name was recorded for its last part, and every identifier was recorded. -/
structure Keeps (records : List (String × Position)) (ps : Positions) : Prop where
  entries : ∀ e ∈ ps.entries, (lastPart e.1, e.2) ∈ records
  found : ∀ r ∈ records, Dictionary.find? ps r.1 = some r.2

variable {records : List (String × Position)}

theorem Keeps.record (h : Keeps records ps) (agree : Agree (records ++ [(identifier, p)])) (table : IdentifierTable) :
    Keeps (records ++ [(identifier, p)]) (ps.record table identifier p) := by
  have new : (identifier, p) ∈ records ++ [(identifier, p)] := List.mem_append_right _ (List.mem_singleton_self _)
  refine ⟨fun e he => ?_, fun r hr => ?_⟩
  · rcases mem_record (agree.bare _ new) he with ⟨rfl, rfl⟩ | old
    · exact new
    · exact List.mem_append_left _ (h.entries e old)
  · have unqualified : r.1 ∉ table.namesEndingWith identifier := by
      intro named
      obtain ⟨front, split⟩ := isDottedSuffix_iff.1 (List.mem_filter.1 named).2
      exact agree.bare r hr (split ▸ by simp)
    rw [find?_record]
    by_cases same : r.1 = identifier
    · rw [if_pos (.inl same), agree.single r hr _ new same]
    · rw [if_neg (by simp [same, unqualified])]
      rcases List.mem_append.1 hr with old | last
      · exact h.found r old
      · exact absurd (congrArg Prod.fst (List.mem_singleton.1 last)) same

/-- All positions are recorded, one after the other. -/
def recordAll (table : IdentifierTable) (ps : Positions) (records : List (String × Position)) : Positions :=
  records.foldl (fun ps r => ps.record table r.1 r.2) ps

theorem Keeps.recordAll {later : List (String × Position)} (h : Keeps records ps) (agree : Agree (records ++ later))
    (table : IdentifierTable) : Keeps (records ++ later) (recordAll table ps later) := by
  induction later generalizing records ps with
  | nil =>
    rw [List.append_nil]
    exact h
  | cons r later ih =>
    have split : records ++ r :: later = (records ++ [r]) ++ later := by rw [List.append_assoc]; rfl
    rw [split] at agree ⊢
    have front : Agree (records ++ [r]) :=
      ⟨fun s hs => agree.bare s (List.mem_append_left _ hs),
        fun s hs t ht => agree.single s (List.mem_append_left _ hs) t (List.mem_append_left _ ht)⟩
    exact ih (h.record front table) agree

/-- A name leads to the position that was recorded for its last part. -/
theorem Keeps.lookup (h : Keeps records ps) (agree : Agree records) (name : String) :
    lookup ps name = (records.find? (·.1 == lastPart name)).map (·.2) := by
  have known : ∀ {k v}, Dictionary.find? ps k = some v → (lastPart k, v) ∈ records := fun {k v} found =>
    h.entries (k, v) (Dictionary.mem_of_lookup found)
  have last : lastPart (lastPart name) = lastPart name := lastPart_of_bare (bare_lastPart name)
  cases recorded : records.find? (·.1 == lastPart name) with
  | some r =>
    have member := List.mem_of_find?_eq_some recorded
    have same : r.1 = lastPart name := by simpa using List.find?_some recorded
    have found : Dictionary.find? ps (lastPart name) = some r.2 := same ▸ h.found r member
    rw [Positions.lookup]
    cases direct : Dictionary.find? ps name with
    | some v =>
      have value : v = r.2 := agree.single _ (known direct) r member same.symm
      rw [value]
      rfl
    | none =>
      have dotted : '.' ∈ name.toList := Decidable.byContradiction fun bare => by
        rw [lastPart_of_bare bare, direct] at found
        cases found
      rw [lastSegment?_eq, if_pos dotted, Option.bind_some, found]
      rfl
  | none =>
    have unrecorded : ∀ v, (lastPart name, v) ∉ records := fun v hv =>
      absurd (List.find?_eq_none.1 recorded _ hv) (by simp)
    have direct : Dictionary.find? ps name = none :=
      Option.eq_none_iff_forall_ne_some.2 fun v found => unrecorded v (known found)
    have bySegment : (lastSegment? name).bind (Dictionary.find? ps) = none := by
      rw [lastSegment?_eq]
      split
      · refine Option.eq_none_iff_forall_ne_some.2 fun v found => unrecorded v ?_
        have entry := known (Option.bind_some _ _ ▸ found)
        rwa [last] at entry
      · rfl
    have bySuffix : ps.entries.find? (fun e => isDottedSuffix e.1 name || isDottedSuffix name e.1) = none := by
      refine List.find?_eq_none.2 fun e he related => unrecorded e.2 ?_
      have alike : lastPart e.1 = lastPart name := by
        rcases Bool.or_eq_true_iff.1 related with suffix | suffix
        · exact (lastPart_of_isDottedSuffix suffix).symm
        · exact lastPart_of_isDottedSuffix suffix
      exact alike ▸ h.entries e he
    rw [Positions.lookup, direct, bySegment, bySuffix]
    rfl

/-- What is found after any records, whichever qualified names the table has. -/
theorem lookup_recordAll (table : IdentifierTable) (agree : Agree records) (name : String) :
    lookup (recordAll table {} records) name = (records.find? (·.1 == lastPart name)).map (·.2) := by
  have none : Keeps [] ({} : Positions) := ⟨fun _ he => (nomatch he), fun _ hr => (nomatch hr)⟩
  exact (none.recordAll agree table).lookup agree name

theorem lookup_of_recorded (table : IdentifierTable) (agree : Agree records) {name : String} {p : Position}
    (h : (lastPart name, p) ∈ records) : lookup (recordAll table {} records) name = some p := by
  rw [lookup_recordAll table agree]
  cases found : records.find? (·.1 == lastPart name) with
  | none => exact absurd (List.find?_eq_none.1 found _ h) (by simp)
  | some r =>
    have same : r.1 = lastPart name := by simpa using List.find?_some found
    exact congrArg some (agree.single r (List.mem_of_find?_eq_some found) _ h same)

theorem lookup_of_unrecorded (table : IdentifierTable) (agree : Agree records) {name : String}
    (h : ∀ r ∈ records, r.1 ≠ lastPart name) : lookup (recordAll table {} records) name = none := by
  have none : records.find? (·.1 == lastPart name) = none := List.find?_eq_none.2 fun r hr => by simpa using h r hr
  rw [lookup_recordAll table agree, none]
  rfl

end Positions

end Blueprint
