/-
  Blueprint.Proofs.Storage.Files — a file that was saved can be read.

  A path leads through directories alone, and what is put in the place of no directory leaves them as
  they were. So the path of a file that was written leads to the same place as before, and there its text
  is found.

  Proved: a written file is there and is read with its line ends as line feeds (`read_of_write`), and so
  is one that was saved (`read_of_save`).
-/

import Blueprint.Storage.Files

namespace Blueprint.Files

variable {files after : Files} {place target : Place} {p : Path} {s : String}

theorem node?_put_of_ne (files : Files) (node : Node) (h : target ≠ place) :
    (files.put target node).node? place = files.node? place := by
  by_cases root : isRoot place = true
  · rw [node?, node?, if_pos root, if_pos root]
  · rw [node?_put _ _ _ _ (by simpa using root), if_neg h]

/-- What is put in the place of no directory does not change where names lead. -/
theorem walk_put (node : Node) (h : files.node? target ≠ some .directory) {names : List String} {start : Place}
    (walk : files.walk start names = .ok place) : (files.put target node).walk start names = .ok place := by
  induction names generalizing start with
  | nil => exact walk
  | cons name names ih =>
    rw [Files.walk] at walk ⊢
    cases here : files.node? start with
    | none => rw [here] at walk; cases walk
    | some found =>
      cases found with
      | file content => rw [here] at walk; cases walk
      | directory =>
        have ne : target ≠ start := by
          rintro rfl
          exact h here
        rw [node?_put_of_ne files node ne, here]
        simp only [here] at walk ⊢
        split at walk
        · cases walk
        · next short =>
          rw [if_neg short]
          exact ih walk

theorem reach_put (node : Node) (h : files.node? target ≠ some .directory) (reach : files.reach p = .ok place) :
    (files.put target node).reach p = .ok place := by
  unfold Files.reach placeOf at reach ⊢
  split at reach
  · cases reach
  · split at reach
    · next found =>
      split at found
      · cases found
      · next short =>
        obtain rfl := Except.ok.inj reach
        rw [if_neg short, walk_put node h found]
    · cases reach

theorem read_of_write (h : files.write p s = (after, .ok ())) :
    after.has p = .ok true ∧ after.read p = .ok (String.ofList (Text.normalizeNewlines s.toList)) := by
  unfold write at h
  split at h
  · cases h
  · next place reach =>
    split at h
    · cases h
    · next notDirectory =>
      split at h
      · obtain ⟨rfl, _⟩ := Prod.mk.inj h
        have fresh : files.node? place ≠ some .directory := fun directory => notDirectory directory
        have reached := reach_put (.file (.text s)) fresh reach
        have root : isRoot place = false := Bool.eq_false_iff.2 fun root => fresh (by rw [node?, if_pos root])
        have found : (files.put place (.file (.text s))).node? place = some (.file (.text s)) := by
          rw [node?_put _ _ _ _ root, if_pos rfl]
        refine ⟨?_, ?_⟩
        · rw [has, reached]
          simp only [found]
          rfl
        · rw [read, contentAt, reached]
          simp only [bind, Except.bind, found]
          rfl
      · cases h

theorem read_of_save (h : files.save p s = (after, .ok ())) :
    after.has p = .ok true ∧ after.read p = .ok (String.ofList (Text.normalizeNewlines s.toList)) := by
  unfold save at h
  split at h
  · exact read_of_write h
  · next failed =>
    rw [h] at failed
    exact absurd rfl (failed after)

end Blueprint.Files
