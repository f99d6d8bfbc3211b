import BuildLine.Proofs.Source.Remote

/-!
# Reading a remote again

A checkout keeps its remote as a plain locator, and this is read again when somebody asks for the
slug. That a remote could be read as it was written does not mean that its plain locator can be read
again. The short form has no authority, so nothing is asked of its host there; and where a host ends
at its first colon, a bracket is left behind without its partner. A question mark or a hash in the
short form is read as part of its path, but in a locator the path ends there.

The remotes whose plain locator can be read again are called *legible* (`parse_locator_isOk_iff`).
Nothing is lost for those that are written without signs of their own meaning (`Plain.legible`).
-/

namespace BuildLine.Source

open Text

namespace Remote

variable {r : Remote} {s : String}

/-- What stands behind the scheme of the plain locator. -/
def tail (r : Remote) : List Char :=
  r.host.toList ++ '/' :: (r.slug.toList ++ ".git".toList)

theorem toList_locator (r : Remote) :
    r.locator.toList = "https".toList ++ "://".toList ++ r.tail := by
  simp [locator, tail]

theorem locator_ne_empty (r : Remote) : r.locator ≠ "" := by
  intro h
  have hlist := r.toList_locator
  rw [h] at hlist
  cases hlist

/-- **A remote that can be read again** from its plain locator. -/
structure Legible (r : Remote) : Prop where
  /-- There is no bracket in the authority without its partner. -/
  brackets : '[' ∈ Url.authorityOf r.tail ↔ ']' ∈ Url.authorityOf r.tail
  /-- No character of the authority could be mistaken for a separator. -/
  separators : ∀ c ∈ Url.authorityOf r.tail, c.toNat ∉ Url.hiddenSeparators
  /-- Owner and name are left in the path. -/
  path : 2 ≤ (segments (Url.withoutParameters (Url.pathOf r.tail))).length

theorem hostAndPath_locator (r : Remote) :
    hostAndPath r.locator = ((Url.checkAuthority (Url.authorityOf r.tail)).mapError .url).map
      fun _ => (afterLast '@' (Url.authorityOf r.tail),
        Url.withoutParameters (Url.pathOf r.tail)) :=
  hostAndPath_of_scheme Url.isScheme_https r.toList_locator

/-- **The plain locator can be read** exactly if the remote is legible. -/
theorem parse_locator_isOk_iff (r : Remote) : (∃ q, parse r.locator = .ok q) ↔ r.Legible := by
  have hfound := r.hostAndPath_locator
  cases hcheck : Url.checkAuthority (Url.authorityOf r.tail) with
  | error f =>
    rw [hcheck] at hfound
    rw [parse_of_error hfound]
    refine iff_of_false nofun fun h => ?_
    cases hcheck.symm.trans (Url.checkAuthority_eq_ok_iff.mpr ⟨h.brackets, h.separators⟩)
  | ok =>
    rw [hcheck] at hfound
    rw [parse_isOk_iff hfound]
    obtain ⟨hbrackets, hseparators⟩ := Url.checkAuthority_eq_ok_iff.mp hcheck
    exact ⟨fun h => ⟨hbrackets, hseparators, h⟩, Legible.path⟩

/-! ### Plain remotes -/

/-- The signs that mean something in a locator, apart from those that part its segments, and the
characters that are dropped from it. -/
def signs : List Char :=
  ['[', ']', '?', '#', ';', '\t', '\r', '\n']

/-- A character without a meaning of its own in a locator. -/
def IsPlain (c : Char) : Prop :=
  c ∉ signs ∧ c.toNat ∉ Url.hiddenSeparators

instance (c : Char) : Decidable (IsPlain c) :=
  inferInstanceAs (Decidable (_ ∧ _))

section PlainText

variable {t : List Char}

theorem not_mem_of_plain (h : ∀ c ∈ t, IsPlain c) {c : Char} (hc : c ∈ signs) : c ∉ t :=
  fun hmem => (h c hmem).1 hc

/-- Plain text is read as a whole. -/
theorem legible_of_plain (h : ∀ c ∈ t, IsPlain c) : Url.legible t = t := by
  have hsigns : ['?', '#', '\t', '\r', '\n'] ⊆ signs := by decide
  exact Url.legible_eq_self fun c hc hsign => not_mem_of_plain h (hsigns hsign) hc

theorem checkAuthority_of_plain (h : ∀ c ∈ t, IsPlain c) : Url.checkAuthority t = .ok () :=
  Url.checkAuthority_eq_ok_iff.mpr
    ⟨iff_of_false (not_mem_of_plain h (by decide)) (not_mem_of_plain h (by decide)),
      fun c hc => (h c hc).2⟩

theorem withoutParameters_of_plain (h : ∀ c ∈ t, IsPlain c) : Url.withoutParameters t = t :=
  Url.withoutParameters_of_not_mem (not_mem_of_plain h (by decide))

end PlainText

/-- **A remote of plain characters.** -/
structure Plain (r : Remote) : Prop where
  /-- The characters of the host. -/
  host : ∀ c ∈ r.host.toList, IsPlain c
  /-- The characters of owner and name. -/
  slug : ∀ c ∈ r.slug.toList, IsPlain c

theorem Plain.of_mem_tail (h : r.Plain) : ∀ c ∈ r.tail, IsPlain c := by
  intro c hc
  simp only [Remote.tail, String.reduceToList, List.mem_append, List.mem_cons, List.not_mem_nil,
    or_false] at hc
  rcases hc with hc | rfl | hc | hc
  · exact h.host c hc
  · decide
  · exact h.slug c hc
  · rcases hc with rfl | rfl | rfl | rfl <;> decide

/-- The path of a plain remote ends with its slug, whatever stands in the host. -/
theorem Plain.segments_pathOf_tail (h : r.Plain) :
    segments (Url.withoutParameters (Url.pathOf r.tail)) =
      segments (r.host.toList.dropWhile (· != '/')) ++
        segments (r.slug.toList ++ ".git".toList) := by
  have hpath : Url.pathOf r.tail =
      r.host.toList.dropWhile (· != '/') ++ '/' :: (r.slug.toList ++ ".git".toList) := by
    rw [Url.pathOf, legible_of_plain h.of_mem_tail, Remote.tail, List.dropWhile_append]
    split
    · rename_i hempty
      rw [List.isEmpty_iff.mp hempty, List.dropWhile_cons_of_neg (by simp), List.nil_append]
    · rfl
  have hplain : ∀ c ∈ Url.pathOf r.tail, IsPlain c := by
    intro c hc
    rw [Url.pathOf, legible_of_plain h.of_mem_tail] at hc
    exact h.of_mem_tail c ((List.dropWhile_sublist _).subset hc)
  rw [withoutParameters_of_plain hplain, hpath, segments_append_slash]

/-- The segments of a slug are those that it was made of, and the last one has its ending again. -/
theorem segments_slug {host : List Char} {ps : List (List Char)} {p : List Char}
    (h : ∀ q ∈ ps ++ [p], q ≠ [] ∧ '/' ∉ q) :
    segments ((ofParts s host (ps ++ [p])).slug.toList ++ ".git".toList) =
      ps ++ [dropTail ".git".toList p ++ ".git".toList] := by
  have hslug : (ofParts s host (ps ++ [p])).slug.toList ++ ".git".toList =
      joinWith ['/'] ps ++ '/' :: (dropTail ".git".toList p ++ ".git".toList) := by
    simp [slug, owner_ofParts, name_ofParts]
  have hslash : '/' ∉ dropTail ".git".toList p ++ ".git".toList := by
    intro hmem
    rcases List.mem_append.mp hmem with hmem | hmem
    · exact (h p (by simp)).2 (mem_of_mem_dropTail hmem)
    · exact absurd hmem (by decide)
  rw [hslug, segments_joinWith_slash (fun q hq => h q (List.mem_append_left _ hq))
    ⟨by simp, hslash⟩]

/-- A remote has two segments, and its name keeps one even if nothing but the ending is left. -/
theorem two_le_segments_slug (h : parse s = .ok r) :
    2 ≤ (segments (r.slug.toList ++ ".git".toList)).length := by
  obtain ⟨host, path, ps, p, -, hparts, hps, rfl⟩ := exists_of_parse_eq_ok h
  rw [segments_slug fun q hq => of_mem_segments (hparts ▸ hq), List.length_append,
    List.length_singleton, Nat.succ_le_succ_iff]
  exact List.length_pos_of_ne_nil hps

/-- **A plain remote is legible.** -/
theorem Plain.legible (h : r.Plain) (hr : parse s = .ok r) : r.Legible := by
  have hauthority : ∀ c ∈ Url.authorityOf r.tail, IsPlain c := by
    intro c hc
    rw [Url.authorityOf, legible_of_plain h.of_mem_tail] at hc
    exact h.of_mem_tail c ((List.takeWhile_sublist _).subset hc)
  obtain ⟨hbrackets, hseparators⟩ :=
    Url.checkAuthority_eq_ok_iff.mp (checkAuthority_of_plain hauthority)
  refine ⟨hbrackets, hseparators, ?_⟩
  rw [h.segments_pathOf_tail, List.length_append]
  exact Nat.le_add_left_of_le (two_le_segments_slug hr)

end Remote

end BuildLine.Source
