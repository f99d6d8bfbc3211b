import BuildLine.Proofs.Source.Remote
import BuildLine.Proofs.Text.Lines

/-!
# What a remote names

A remote that can be read has an owner and a name, and both come from segments of its path, of which
none is empty. For the owner that is enough: segments that are put together again have no slash at
either end. The name loses its ending, and with it everything if the last segment is nothing but the
ending. Two segments are asked for before the ending is taken off, so such a remote is read all the
same, and it names no repository.

A remote that names both is called *complete*, and the bare ending is all that can be in the way of
it (`complete_iff`).
-/

namespace BuildLine.Source

open Text

namespace Remote

/-- A text that can stand in a path: it is not empty and has no slash at either end. -/
structure Proper (s : String) : Prop where
  /-- There is something. -/
  ne_empty : s ≠ ""
  /-- It does not begin with a slash. -/
  head : s.toList.head? ≠ some '/'
  /-- It does not end with a slash. -/
  last : s.toList.getLast? ≠ some '/'

/-- A text that is cut at its slashes into pieces of which none is empty. -/
theorem Proper.of_splitAt {s : List Char} (h : [] ∉ splitAt '/' s) : Proper (String.ofList s) := by
  refine ⟨fun hempty => ?_, fun hhead => ?_, fun hlast => ?_⟩
  · obtain rfl : s = [] := String.ofList_injective hempty
    exact h (List.mem_singleton_self _)
  · rw [String.toList_ofList] at hhead
    obtain ⟨t, rfl⟩ := List.head?_eq_some_iff.mp hhead
    rw [splitAt, if_pos rfl] at h
    exact h (List.mem_cons_self ..)
  · rw [String.toList_ofList] at hlast
    obtain ⟨t, rfl⟩ := List.getLast?_eq_some_iff.mp hlast
    rw [splitAt_append_cons] at h
    exact h (List.mem_append_right _ (List.mem_singleton_self _))

/-- **A remote that names its owner and its repository.** -/
structure Complete (r : Remote) : Prop where
  /-- There is an owner. -/
  owner : Proper r.owner
  /-- There is a name. -/
  name : Proper r.name
  /-- The slug has a part for each of them. -/
  parts : 2 ≤ (segments r.slug.toList).length

/-- The path of the remote ends with a segment that is nothing but the ending of a repository. -/
def EndsBare (s : String) : Prop :=
  ∃ host path, hostAndPath s = .ok (host, path) ∧ (segments path).getLast? = some ".git".toList

section Parts

variable {s : String} {host p : List Char} {ps : List (List Char)}

theorem proper_owner (hps : ps ≠ []) (h : ∀ q ∈ ps ++ [p], q ≠ [] ∧ '/' ∉ q) :
    Proper (ofParts s host (ps ++ [p])).owner := by
  have hsplit : splitAt '/' (joinWith ['/'] ps) = ps :=
    splitAt_joinWith hps fun q hq => (h q (List.mem_append_left _ hq)).2
  rw [owner_ofParts]
  refine Proper.of_splitAt ?_
  rw [hsplit]
  exact fun hnil => (h [] (List.mem_append_left _ hnil)).1 rfl

theorem slash_not_mem_name (h : '/' ∉ p) : '/' ∉ (ofParts s host (ps ++ [p])).name.toList := by
  rw [name_ofParts, String.toList_ofList]
  exact fun hmem => h (mem_of_mem_dropTail hmem)

/-- The name is lost if there was nothing but the ending. -/
theorem proper_name_iff (hp : p ≠ [] ∧ '/' ∉ p) :
    Proper (ofParts s host (ps ++ [p])).name ↔ p ≠ ".git".toList := by
  have hslash : '/' ∉ dropTail ".git".toList p := fun hmem => hp.2 (mem_of_mem_dropTail hmem)
  rw [name_ofParts]
  constructor
  · rintro hproper rfl
    exact hproper.ne_empty rfl
  · intro hne
    refine Proper.of_splitAt ?_
    rw [splitAt_of_not_mem hslash, List.mem_singleton]
    exact fun hnil => hne ((dropTail_eq_nil_iff hp.1).mp hnil.symm)

/-- A slug has the segments of the owner, and behind them the name. -/
theorem segments_slug_of_name (h : ∀ q ∈ ps ++ [p], q ≠ [] ∧ '/' ∉ q)
    (hname : dropTail ".git".toList p ≠ []) :
    segments (ofParts s host (ps ++ [p])).slug.toList = ps ++ [dropTail ".git".toList p] := by
  have hslash : '/' ∉ dropTail ".git".toList p :=
    fun hmem => (h p (List.mem_concat_self ..)).2 (mem_of_mem_dropTail hmem)
  have hslug : (ofParts s host (ps ++ [p])).slug.toList =
      joinWith ['/'] ps ++ '/' :: dropTail ".git".toList p := by
    simp [slug, owner_ofParts, name_ofParts]
  rw [hslug, segments_joinWith_slash (fun q hq => h q (List.mem_append_left _ hq)) ⟨hname, hslash⟩]

end Parts

/-- **What a remote names.** The owner is always there, and so is the name, unless the path ends
with a bare ending. -/
theorem complete_iff {s : String} {r : Remote} (h : parse s = .ok r) :
    Proper r.owner ∧ '/' ∉ r.name.toList ∧ (r.Complete ↔ ¬ EndsBare s) := by
  obtain ⟨host, path, ps, p, hfound, hparts, hps, rfl⟩ := exists_of_parse_eq_ok h
  have hsegments : ∀ q ∈ ps ++ [p], q ≠ [] ∧ '/' ∉ q := fun q hq => of_mem_segments (hparts ▸ hq)
  have hp := hsegments p (List.mem_concat_self ..)
  have hbare : EndsBare s ↔ p = ".git".toList := by
    constructor
    · rintro ⟨host', path', hfound', hlast⟩
      obtain ⟨-, rfl⟩ := Prod.mk.inj (Except.ok.inj (hfound.symm.trans hfound'))
      rw [hparts, List.getLast?_concat] at hlast
      exact Option.some.inj hlast
    · rintro rfl
      exact ⟨host, path, hfound, by rw [hparts, List.getLast?_concat]⟩
  refine ⟨proper_owner hps hsegments, slash_not_mem_name hp.2, ?_⟩
  rw [hbare, ← Ne, ← proper_name_iff hp]
  refine ⟨Complete.name, fun hname => ⟨proper_owner hps hsegments, hname, ?_⟩⟩
  have hleft : dropTail ".git".toList p ≠ [] := fun hnil =>
    hname.ne_empty (by rw [name_ofParts, hnil])
  rw [segments_slug_of_name hsegments hleft, List.length_append, List.length_singleton]
  exact Nat.succ_le_succ (List.length_pos_of_ne_nil hps)

/-- An owner that is a path, in the place of a port. -/
theorem complete_iff_group :
    let r : Remote :=
      { host := "gitlab.com", owner := "group/sub", name := "project"
        written := "ssh://git@gitlab.com:group/sub/project.git" }
    parse r.written = .ok r ∧ r.Complete := by
  intro r
  have hparse : parse r.written = .ok r := by cbv
  have hfound : hostAndPath r.written =
      .ok ("gitlab.com".toList, "group/sub/project.git".toList) := by cbv
  have hlast : (segments "group/sub/project.git".toList).getLast? = some "project.git".toList := by
    decide
  refine ⟨hparse, (complete_iff hparse).2.2.mpr ?_⟩
  rintro ⟨host, path, hfound', hbare⟩
  obtain ⟨-, rfl⟩ := Prod.mk.inj (Except.ok.inj (hfound.symm.trans hfound'))
  exact absurd (hlast.symm.trans hbare) (by decide)

/-- **A remote without a name** that is read nevertheless. -/
theorem parse_bare_ending :
    let r : Remote :=
      { host := "github.com", owner := "owner", name := ""
        written := "https://github.com/owner/.git" }
    parse r.written = .ok r ∧ ¬ r.Complete := by
  intro r
  have hparse : parse r.written = .ok r := by cbv
  exact ⟨hparse, fun hcomplete => hcomplete.name.ne_empty rfl⟩

end Remote

end BuildLine.Source
