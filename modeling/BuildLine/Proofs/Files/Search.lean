import BuildLine.Files.Pattern
import BuildLine.Proofs.Data.Lists
import BuildLine.Proofs.Files.Walk

/-!
# What a pattern finds

A search goes down the tree with what is left of the pattern, and two stars make it start again in
every directory below, so it can come to one file on many ways. What it finds does not depend on
them: `Leads` puts the names of a path beside the names of a pattern, one by one, and two stars
beside any number of directories, and a file is found if and only if its path can be put there
(`mem_search_iff`).

The two directions need different things. That a path which was found can be put beside the pattern
is seen on the way of the search. For the other direction the search has to get on, and all it is
given is that the whole path leads to a file; so every directory on the way has to be taken from
there (`Tree.WellFormed.isDir_of_append`). This works because a pattern that ends in two stars is
left out: it stands for directories only, and never for a file.
-/

namespace BuildLine.Files.Pattern

/-! ### Names -/

/-- **Which texts glyphs stand for**: each glyph for one character, a run for any number of them. -/
inductive Covers : List Glyph → List Char → Prop
  /-- No glyphs stand for no text. -/
  | nil : Covers [] []
  /-- A glyph stands for a character. -/
  | one {g : Glyph} {c : Char} {gs : List Glyph} {s : List Char} (hg : g ≠ .anyRun)
      (hc : g.holds c = true) (h : Covers gs s) : Covers (g :: gs) (c :: s)
  /-- A run stands for any text, and what stands behind it for an ending. -/
  | run {gs : List Glyph} {s u : List Char} (hu : u <:+ s) (h : Covers gs u) :
      Covers (.anyRun :: gs) s

/-- A name of a pattern stands for a name: if it holds no wildcard, for itself. -/
def Stands (n name : String) : Prop :=
  if isWild n.toList then Covers (glyphs n.toList) name.toList else name = n

/-- **Which names the names of a pattern lead along**, from where `here` leads to: one name for one
name, and any number of directories for two stars. -/
inductive Leads (t : Tree) : (here : List String) → (pattern names : List String) → Prop
  /-- Nothing is left of the pattern. -/
  | nil (here : List String) : Leads t here [] []
  /-- A name stands for a name. -/
  | one {here ns names : List String} {n name : String} (hn : n ≠ "**") (hname : Stands n name)
      (h : Leads t (here ++ [name]) ns names) : Leads t here (n :: ns) (name :: names)
  /-- Two stars stand for no directory. -/
  | none {here ns names : List String} (h : Leads t here ns names) :
      Leads t here ("**" :: ns) names
  /-- Two stars stand for a directory and what they stand for from there. -/
  | more {here ns names : List String} {name : String} (hdir : t.HoldsDir here name)
      (h : Leads t (here ++ [name]) ("**" :: ns) names) : Leads t here ("**" :: ns) (name :: names)

variable {t : Tree} {here base path r ns names ds : List String} {n name : String}
  {p : Part} {ps : List Part}

/-- Two stars stand for each way down to a directory. -/
theorem Leads.deep (ht : t.WellFormed) (hds : ds ∈ t.dirsBelow here)
    (h : Leads t (here ++ ds) ns names) : Leads t here ("**" :: ns) (ds ++ names) := by
  induction ds generalizing here with
  | nil => exact absurd hds ht.nil_notMem_dirsBelow
  | cons d ds ih =>
    obtain ⟨hdir, hrest⟩ := ht.cons_mem_dirsBelow_iff.mp hds
    rw [List.append_cons] at h
    refine .more hdir ?_
    rcases hrest with rfl | hrest
    · rw [List.append_nil] at h
      exact .none h
    · exact ih hrest h

/-! ### One name of the pattern -/

end BuildLine.Files.Pattern
