/-
  Blueprint.Dictionary — maps from text that remember the order of insertion.

  A new key goes to the end; writing to a key that is there keeps its place.

  Proved: what is found after a write is what was written there (`find?_insert`), the keys are kept
  in order (`keys_insert`).
-/

namespace Blueprint

structure Dictionary (α : Type) where
  entries : List (String × α)
  deriving DecidableEq, Repr

namespace Dictionary

variable {α : Type}

def empty : Dictionary α := ⟨[]⟩

instance : EmptyCollection (Dictionary α) := ⟨empty⟩

/-- The value of the first entry with the key. -/
def lookup (key : String) : List (String × α) → Option α
  | [] => none
  | (k, v) :: rest => if k = key then some v else lookup key rest

def write (key : String) (value : α) : List (String × α) → List (String × α)
  | [] => [(key, value)]
  | (k, v) :: rest => if k = key then (k, value) :: rest else (k, v) :: write key value rest

def find? (d : Dictionary α) (key : String) : Option α := lookup key d.entries

def contains (d : Dictionary α) (key : String) : Bool := (d.find? key).isSome

def insert (d : Dictionary α) (key : String) (value : α) : Dictionary α := ⟨write key value d.entries⟩

def keys (d : Dictionary α) : List String := d.entries.map (·.1)

def values (d : Dictionary α) : List α := d.entries.map (·.2)

def size (d : Dictionary α) : Nat := d.entries.length

def ofList (entries : List (String × α)) : Dictionary α :=
  entries.foldl (fun d e => d.insert e.1 e.2) empty

/-! ## Small facts -/

theorem lookup_write (key k : String) (value : α) (entries : List (String × α)) :
    lookup k (write key value entries) = if key = k then some value else lookup k entries := by
  induction entries with
  | nil => simp [write, lookup]
  | cons e rest ih =>
    obtain ⟨a, v⟩ := e
    simp only [write]
    split
    · next h => subst h; by_cases hk : a = k <;> simp [lookup, hk]
    · next h =>
      simp only [lookup, ih]
      by_cases hk : a = k
      · subst hk; simp [Ne.symm h]
      · simp [hk]

theorem find?_insert (d : Dictionary α) (key k : String) (value : α) :
    (d.insert key value).find? k = if key = k then some value else d.find? k :=
  lookup_write key k value d.entries

theorem keys_write (key : String) (value : α) (entries : List (String × α)) :
    (write key value entries).map (·.1) =
      if key ∈ entries.map (·.1) then entries.map (·.1) else entries.map (·.1) ++ [key] := by
  induction entries with
  | nil => simp [write]
  | cons e rest ih =>
    obtain ⟨a, v⟩ := e
    simp only [write]
    split
    · next h => simp [h]
    · next h =>
      have hne : ¬key = a := fun e => h e.symm
      simp only [List.map_cons, ih, List.mem_cons, hne, false_or]
      split <;> simp

theorem keys_insert (d : Dictionary α) (key : String) (value : α) :
    (d.insert key value).keys = if key ∈ d.keys then d.keys else d.keys ++ [key] :=
  keys_write key value d.entries

end Dictionary

end Blueprint
