import BuildLine.Proofs.Source.Remote

/-!
# Which remotes are rewritten

The short form, and locators of the web and of the secure shell, are the remotes that are meant to
be rewritten. What is looked at is less than that: the ending, and a sign that stands in all of
them. Hence a locator with any scheme gets through, and so does a remote without a host, as the
files of a disk have none. Its plain locator names another place then, or no place at all.

Nothing else can go wrong. An accepted remote is the short form or a locator, and it has a host
exactly if its plain locator has one (`documented_iff`).
-/

namespace BuildLine.Source

open Text

/-! ### Hosts -/

/-- **An address without a host**: there is nothing, or nothing in front of the port. -/
def NoHost (a : List Char) : Prop :=
  a = [] ∨ ∃ port, a = ':' :: port

namespace Remote

variable {s : String} {a : List Char}

/-- Cutting off the port leaves the host as it is. -/
theorem noHost_cutColon (a : List Char) : NoHost (cutColon a).1 ↔ NoHost a := by
  by_cases h : ':' ∈ a
  · obtain ⟨host, port, rfl, hhost⟩ := List.eq_append_cons_of_mem h
    rw [cutColon_append_cons hhost]
    cases host with
    | nil => exact iff_of_true (Or.inl rfl) (Or.inr ⟨port, rfl⟩)
    | cons c host =>
      have hc : c ≠ ':' := fun hcolon => hhost (hcolon ▸ List.mem_cons_self ..)
      refine iff_of_false ?_ ?_ <;> simp [NoHost, hc]
  · rw [cutColon_of_not_mem h]

/-- The host of a locator stands behind the user information, with its port or without. -/
theorem fst_ofUrl (url : Url) :
    (ofUrl url).1 = afterLast '@' url.authority ∨
      (ofUrl url).1 = (cutColon (afterLast '@' url.authority)).1 := by
  rw [ofUrl]
  split
  · simp only
    split <;> exact Or.inr rfl
  · exact Or.inl rfl

theorem noHost_ofUrl (url : Url) : NoHost (ofUrl url).1 ↔ NoHost (afterLast '@' url.authority) := by
  rcases fst_ofUrl url with h | h
  · rw [h]
  · rw [h, noHost_cutColon]

theorem at_not_mem_ofUrl (url : Url) : '@' ∉ (ofUrl url).1 := by
  rcases fst_ofUrl url with h | h <;> rw [h]
  · exact not_mem_afterLast '@' url.authority
  · exact mt mem_of_mem_cutColon (not_mem_afterLast '@' url.authority)

end Remote

namespace Checkout

/-! ### The forms of remotes -/

/-- The short form `user@host:path`. -/
def IsShort (s : List Char) : Prop :=
  ¬ "://".toList <:+: s ∧ ∃ user host path, s = user ++ '@' :: (host ++ ':' :: path)

/-- The text is a locator with these parts. -/
def ReadsAs (s : List Char) (url : Url) : Prop :=
  "://".toList <:+: s ∧ Url.split s = .ok url

/-- The schemes of the web and of the secure shell. -/
def IsKnown (scheme : List Char) : Prop :=
  scheme = "http".toList ∨ scheme = "https".toList ∨ "ssh".toList <+: scheme

/-- **A remote of a documented form.** -/
def Documented (s : List Char) : Prop :=
  IsShort s ∨ ∃ url, ReadsAs s url ∧ IsKnown url.scheme

/-- A locator with some other scheme, or with none. -/
def Foreign (s : List Char) : Prop :=
  ∃ url, ReadsAs s url ∧ ¬ IsKnown url.scheme

/-- A remote in which no host is written. -/
def Hostless (s : List Char) : Prop :=
  ¬ "://".toList <:+: s ∧ NoHost (afterLast '@' s) ∨
    ∃ url, ReadsAs s url ∧ NoHost (afterLast '@' url.authority)

section Forms

variable {s : List Char} {url : Url}

/-- What holds of the parts of a locator holds of those that it is read with. -/
theorem ReadsAs.exists_iff (h : ReadsAs s url) {p : Url → Prop} :
    (∃ u, ReadsAs s u ∧ p u) ↔ p url := by
  constructor
  · rintro ⟨u, hu, hp⟩
    rwa [Except.ok.inj (h.2.symm.trans hu.2)]
  · exact fun hp => ⟨url, h, hp⟩

theorem ReadsAs.documented_iff_not_foreign (h : ReadsAs s url) : Documented s ↔ ¬ Foreign s := by
  rw [Documented, Foreign, h.exists_iff, h.exists_iff, not_not]
  exact or_iff_right fun hshort => hshort.1 h.1

theorem ReadsAs.hostless_iff (h : ReadsAs s url) :
    Hostless s ↔ NoHost (afterLast '@' url.authority) := by
  rw [Hostless, h.exists_iff]
  exact or_iff_right fun hshort => hshort.1 h.1

theorem not_foreign_of_not_marked (h : ¬ "://".toList <:+: s) : ¬ Foreign s :=
  fun ⟨_, hreads, _⟩ => h hreads.1

theorem hostless_iff_of_not_marked (h : ¬ "://".toList <:+: s) :
    Hostless s ↔ NoHost (afterLast '@' s) := by
  rw [Hostless, and_iff_right h]
  exact or_iff_left fun ⟨_, hreads, _⟩ => h hreads.1

/-- A text with a path behind its last at sign is of the short form. -/
theorem isShort_of_cutColon (h : ¬ "://".toList <:+: s) (hat : '@' ∈ s)
    (hpath : (Remote.cutColon (afterLast '@' s)).2 ≠ []) : IsShort s := by
  have hcolon : ':' ∈ afterLast '@' s := by
    by_contra hcolon
    rw [Remote.cutColon_of_not_mem hcolon] at hpath
    exact hpath rfl
  obtain ⟨user, hs⟩ := exists_eq_append_afterLast hat
  obtain ⟨host, path, hafter, -⟩ := List.eq_append_cons_of_mem hcolon
  rw [hafter] at hs
  exact ⟨h, user, host, path, hs⟩

end Forms

/-! ### What is accepted -/

/-- **Which remotes are rewritten**, and to what. The plain locator has a host without an at sign,
then the slug and the ending. The remote is of a documented form and the host is there exactly if
the scheme is none of the others and a host is written. -/
theorem documented_iff {s t : String} (h : rewriteRemote s = .ok t) :
    ∃ r, Remote.parse s = .ok r ∧ t = "https://" ++ r.host ++ "/" ++ r.slug ++ ".git" ∧
      '@' ∉ r.host.toList ∧
      (Documented s.toList ∧ ¬ NoHost r.host.toList ↔
        ¬ Foreign s.toList ∧ ¬ Hostless s.toList) := by
  obtain ⟨r, hparse, rfl⟩ := rewriteRemote_eq_ok h
  refine ⟨r, hparse, rfl, ?_⟩
  obtain ⟨host, path, ps, p, hfound, hparts, -, rfl⟩ := Remote.exists_of_parse_eq_ok hparse
  have hhost : (Remote.ofParts s host (ps ++ [p])).host.toList = host := String.toList_ofList
  rw [hhost]
  rcases Remote.hostAndPath_eq_ok hfound with ⟨hmarks, url, hsplit, heq⟩ | ⟨hmarks, hat, heq⟩
  · have hreads : ReadsAs s.toList url := ⟨hmarks, hsplit⟩
    obtain rfl : host = (Remote.ofUrl url).1 := congrArg Prod.fst heq
    rw [hreads.documented_iff_not_foreign, hreads.hostless_iff, Remote.noHost_ofUrl]
    exact ⟨Remote.at_not_mem_ofUrl url, Iff.rfl⟩
  · obtain rfl : host = (Remote.cutColon (afterLast '@' s.toList)).1 := congrArg Prod.fst heq
    obtain rfl : path = (Remote.cutColon (afterLast '@' s.toList)).2 := congrArg Prod.snd heq
    have hpath : (Remote.cutColon (afterLast '@' s.toList)).2 ≠ [] := by
      intro hnil
      rw [hnil] at hparts
      cases ps <;> cases hparts
    have hdocumented : Documented s.toList := Or.inl (isShort_of_cutColon hmarks hat hpath)
    rw [hostless_iff_of_not_marked hmarks, Remote.noHost_cutColon]
    refine ⟨mt Remote.mem_of_mem_cutColon (not_mem_afterLast '@' s.toList), ?_⟩
    exact and_congr_left fun _ => iff_of_true hdocumented (not_foreign_of_not_marked hmarks)

/-- A locator of the secure shell with its owner in the place of a port. -/
theorem documented_iff_group :
    let r : Remote :=
      { host := "gitlab.com", owner := "group/sub", name := "project"
        written := "ssh+git://git@gitlab.com:group/sub/project.git" }
    rewriteRemote r.written = .ok r.locator ∧ Documented r.written.toList ∧
      ¬ NoHost r.host.toList := by
  intro r
  have hparse : Remote.parse r.written = .ok r := by cbv
  have hrewrite : rewriteRemote r.written = .ok r.locator :=
    rewriteRemote_of_parse_ok (by decide) hparse
  let url : Url :=
    { scheme := "ssh+git".toList, authority := "git@gitlab.com:group".toList
      path := "/sub/project.git".toList }
  have hreads : ReadsAs r.written.toList url := ⟨occurs_iff.mp (by decide), by cbv⟩
  obtain ⟨q, hq, -, -, hiff⟩ := documented_iff hrewrite
  obtain rfl := Except.ok.inj (hparse.symm.trans hq)
  refine ⟨hrewrite, hiff.mpr ⟨?_, ?_⟩⟩
  · rw [Foreign, hreads.exists_iff, not_not]
    exact Or.inr (Or.inr ⟨"+git".toList, by decide⟩)
  · have haddress : afterLast '@' url.authority = "gitlab.com:group".toList := by decide
    rw [hreads.hostless_iff, haddress]
    rintro (hnil | ⟨port, hport⟩)
    · cases hnil
    · cases hport

/-- **The files of a disk** are rewritten to a locator without a host. -/
theorem rewriteRemote_of_files :
    let r : Remote :=
      { host := "", owner := "srv/git", name := "project"
        written := "file:///srv/git/project.git" }
    rewriteRemote r.written = .ok r.locator ∧ r.locator = "https:///srv/git/project.git" ∧
      ¬ Documented r.written.toList := by
  intro r
  have hrewrite : rewriteRemote r.written = .ok r.locator :=
    rewriteRemote_of_parse_ok (by decide) (by cbv)
  let url : Url :=
    { scheme := "file".toList, authority := [], path := "/srv/git/project.git".toList }
  have hreads : ReadsAs r.written.toList url := ⟨occurs_iff.mp (by decide), by cbv⟩
  refine ⟨hrewrite, by cbv, ?_⟩
  rw [hreads.documented_iff_not_foreign, Foreign, hreads.exists_iff, not_not]
  rintro (hhttp | hhttps | ⟨t, hssh⟩)
  · exact absurd hhttp (by decide)
  · exact absurd hhttps (by decide)
  · cases hssh

end Checkout

end BuildLine.Source
