import BuildLine.Proofs.Source.Url
import BuildLine.Source.Checkout

/-!
# How remotes are read

A remote is read in two steps. First its host and its path are found, then the path is cut into
segments, of which there must be two. What goes wrong in the first step is told by the remote as a
whole or by the authority of its locator, and what goes wrong in the second by the remote as a whole
(`parse_eq_error`).

The remote of a checkout is read as it was written, and rewritten if it names a repository. The
answers of a checkout *name* a remote if it gets that far (`Checkout.Answers.Names`); then it is the
rewritten text that stands in the checkout (`names_of_ofAnswers`).
-/

namespace BuildLine.Source

open Text

namespace Remote

variable {s : String} {host path : List Char}

/-! ### Segments -/

/-- The segments of two paths, one after the other. -/
theorem segments_append_slash (a b : List Char) :
    segments (a ++ '/' :: b) = segments a ++ segments b := by
  rw [segments, splitAt_append_cons, List.filter_append, segments, segments]

theorem segments_slash (a : List Char) : segments ('/' :: a) = segments a :=
  segments_append_slash [] a

/-- A path has the same segments without the slashes in front of it. -/
theorem segments_trimLeft (a : List Char) : segments (trimLeft (· = '/') a) = segments a := by
  induction a with
  | nil => rfl
  | cons c a ih =>
    by_cases hc : c = '/'
    · rw [hc, segments_slash, ← ih, trimLeft, List.dropWhile_cons_of_pos (by simp), trimLeft]
    · rw [trimLeft, List.dropWhile_cons_of_neg (by simpa using hc)]

theorem segments_of_not_mem {p : List Char} (hne : p ≠ []) (h : '/' ∉ p) : segments p = [p] := by
  rw [segments, splitAt_of_not_mem h]
  simp [hne]

/-- Segments that are joined are found again. -/
theorem segments_joinWith {ps : List (List Char)} (h : ∀ p ∈ ps, p ≠ [] ∧ '/' ∉ p) :
    segments (joinWith ['/'] ps) = ps := by
  induction ps with
  | nil => rfl
  | cons p ps ih =>
    obtain ⟨hp, hps⟩ := List.forall_mem_cons.mp h
    have hsegments := segments_of_not_mem hp.1 hp.2
    cases ps with
    | nil => exact hsegments
    | cons q ps =>
      rw [joinWith, List.append_assoc, List.singleton_append, segments_append_slash, hsegments,
        ih hps]
      · rfl
      · simp

/-- A last segment that is put behind others is found behind them. -/
theorem segments_joinWith_slash {ps : List (List Char)} {p : List Char}
    (h : ∀ q ∈ ps, q ≠ [] ∧ '/' ∉ q) (hp : p ≠ [] ∧ '/' ∉ p) :
    segments (joinWith ['/'] ps ++ '/' :: p) = ps ++ [p] := by
  rw [segments_append_slash, segments_joinWith h, segments_of_not_mem hp.1 hp.2]

/-- No segment is empty, and none can be cut further. -/
theorem of_mem_segments {path p : List Char} (h : p ∈ segments path) : p ≠ [] ∧ '/' ∉ p := by
  obtain ⟨hmem, hne⟩ := List.mem_filter.mp h
  exact ⟨by simpa using hne, not_mem_of_mem_splitAt hmem⟩

/-! ### Endings -/

theorem mem_of_mem_dropTail {t p : List Char} {c : Char} (h : c ∈ dropTail t p) : c ∈ p := by
  rw [dropTail] at h
  split at h
  · exact List.mem_of_mem_take h
  · exact h

theorem dropTail_append (t p : List Char) : dropTail t (p ++ t) = p := by
  rw [dropTail, if_pos (List.isSuffixOf_iff_suffix.mpr (List.suffix_append p t)),
    List.length_append, Nat.add_sub_cancel, List.take_left]

/-- Nothing is left of a text that is nothing but the ending. -/
theorem dropTail_eq_nil_iff {t p : List Char} (hp : p ≠ []) : dropTail t p = [] ↔ p = t := by
  constructor
  · intro h
    by_cases hsuffix : t <:+ p
    · obtain ⟨a, rfl⟩ := hsuffix
      rw [dropTail_append] at h
      rw [h, List.nil_append]
    · rw [dropTail, if_neg (mt List.isSuffixOf_iff_suffix.mp hsuffix)] at h
      exact absurd h hp
  · rintro rfl
    exact dropTail_append p []

/-! ### Host and path -/

section Colon

variable {a b : List Char}

theorem cutColon_append_cons (h : ':' ∉ a) : cutColon (a ++ ':' :: b) = (a, b) := by
  rw [cutColon, cutFirst?_append_cons h, Option.getD_some]

theorem cutColon_of_not_mem (h : ':' ∉ a) : cutColon a = (a, []) := by
  rw [cutColon, cutFirst?_of_not_mem h, Option.getD_none]

theorem mem_of_mem_cutColon {c : Char} (h : c ∈ (cutColon a).1) : c ∈ a := by
  by_cases hcolon : ':' ∈ a
  · obtain ⟨x, y, rfl, hx⟩ := List.eq_append_cons_of_mem hcolon
    rw [cutColon_append_cons hx] at h
    exact List.mem_append_left _ h
  · rwa [cutColon_of_not_mem hcolon] at h

end Colon

theorem hostAndPath_of_locator (h : occurs "://".toList s.toList = true) :
    hostAndPath s = ((Url.split s.toList).mapError .url).map ofUrl := by
  simp only [hostAndPath, h, if_true]

/-- What is found of a locator with a proper scheme. -/
theorem hostAndPath_of_scheme {scheme t : List Char} (hscheme : Url.IsScheme scheme)
    (hs : s.toList = scheme ++ "://".toList ++ t) :
    hostAndPath s = ((Url.checkAuthority (Url.authorityOf t)).mapError .url).map fun _ =>
      ofUrl {
        scheme := scheme.map Char.toLower
        authority := Url.authorityOf t
        path := if Url.withParameters.contains (String.ofList (scheme.map Char.toLower)) then
            Url.withoutParameters (Url.pathOf t)
          else Url.pathOf t } := by
  have hoccurs : occurs "://".toList s.toList = true := by
    rw [occurs_iff, hs]
    exact ⟨scheme, t, rfl⟩
  rw [hostAndPath_of_locator hoccurs, hs, Url.split_locator hscheme]
  cases Url.checkAuthority (Url.authorityOf t) <;> rfl

theorem hostAndPath_of_short (h : ¬ "://".toList <:+: s.toList) (hat : '@' ∈ s.toList)
    (hcolon : ':' ∈ s.toList) : hostAndPath s = .ok (cutColon (afterLast '@' s.toList)) := by
  have hoccurs : occurs "://".toList s.toList = false := by
    rwa [Bool.eq_false_iff, Ne, occurs_iff]
  simp only [hostAndPath, hoccurs, List.contains_iff_mem.mpr hat, List.contains_iff_mem.mpr hcolon,
    Bool.false_eq_true, if_false, Bool.and_self, if_true]

/-- **What was found of a remote** comes from a locator or from the short form. -/
theorem hostAndPath_eq_ok {found : List Char × List Char} (h : hostAndPath s = .ok found) :
    ("://".toList <:+: s.toList ∧ ∃ url, Url.split s.toList = .ok url ∧ found = ofUrl url) ∨
      (¬ "://".toList <:+: s.toList ∧ '@' ∈ s.toList ∧
        found = cutColon (afterLast '@' s.toList)) := by
  rw [← occurs_iff]
  cases hoccurs : occurs "://".toList s.toList with
  | true =>
    rw [hostAndPath_of_locator hoccurs] at h
    cases hsplit : Url.split s.toList with
    | error g =>
      rw [hsplit] at h
      cases h
    | ok url =>
      rw [hsplit] at h
      exact Or.inl ⟨rfl, url, rfl, (Except.ok.inj h).symm⟩
  | false =>
    simp only [hostAndPath, hoccurs, Bool.false_eq_true, if_false] at h
    split at h
    · rename_i hsigns
      rw [Bool.and_eq_true, List.contains_iff_mem] at hsigns
      exact Or.inr ⟨Bool.false_ne_true, hsigns.1, (Except.ok.inj h).symm⟩
    · cases h

/-! ### Reading a remote -/

/-- The remote with the given host and segments. -/
def ofParts (written : String) (host : List Char) (parts : List (List Char)) : Remote where
  host := String.ofList host
  owner := String.ofList (joinWith ['/'] parts.dropLast)
  name := String.ofList (dropTail ".git".toList (parts.getLast?.getD []))
  written := written

theorem owner_ofParts (host : List Char) (ps : List (List Char)) (p : List Char) :
    (ofParts s host (ps ++ [p])).owner = String.ofList (joinWith ['/'] ps) := by
  rw [ofParts, List.dropLast_concat]

theorem name_ofParts (host : List Char) (ps : List (List Char)) (p : List Char) :
    (ofParts s host (ps ++ [p])).name = String.ofList (dropTail ".git".toList p) := by
  rw [ofParts, List.getLast?_concat, Option.getD_some]

theorem parse_of_error {f : Fault} (h : hostAndPath s = .error f) : parse s = .error f := by
  rw [parse, h]
  rfl

/-- **A remote with host and path** names a repository if its path has two segments. -/
theorem parse_of_ok (h : hostAndPath s = .ok (host, path)) :
    parse s = if 2 ≤ (segments path).length then .ok (ofParts s host (segments path))
      else .error (.noPath s) := by
  simp only [parse, h, bind, Except.bind]
  cases hlast : (segments path).getLast? with
  | none => simp [List.getLast?_eq_none_iff.mp hlast, throw, throwThe, MonadExceptOf.throw]
  | some last =>
    by_cases hlt : (segments path).length < 2
    · rw [if_neg (Nat.not_le.mpr hlt)]
      simp only [hlt, if_true]
      rfl
    · rw [if_pos (Nat.not_lt.mp hlt), ofParts, hlast]
      simp only [hlt, if_false]
      rfl

theorem parse_isOk_iff (h : hostAndPath s = .ok (host, path)) :
    (∃ r, parse s = .ok r) ↔ 2 ≤ (segments path).length := by
  rw [parse_of_ok h]
  split <;> simp_all

/-- **A remote that was read** has its owner and its name from the path that was found. -/
theorem exists_of_parse_eq_ok {r : Remote} (h : parse s = .ok r) :
    ∃ host path ps p, hostAndPath s = .ok (host, path) ∧ segments path = ps ++ [p] ∧ ps ≠ [] ∧
      r = ofParts s host (ps ++ [p]) := by
  cases hfound : hostAndPath s with
  | error f => cases (parse_of_error hfound).symm.trans h
  | ok found =>
    obtain ⟨host, path⟩ := found
    rw [parse_of_ok hfound] at h
    split at h
    · rename_i htwo
      obtain ⟨ps, p, hparts⟩ : ∃ ps p, segments path = ps ++ [p] := by
        refine ⟨_, _, (List.dropLast_append_getLast (fun hnil => ?_)).symm⟩
        simp [hnil] at htwo
      rw [hparts] at h htwo
      refine ⟨host, path, ps, p, rfl, hparts, ?_, (Except.ok.inj h).symm⟩
      rintro rfl
      simp at htwo
    · cases h

theorem hostAndPath_eq_error {f : Fault} (h : hostAndPath s = .error f) :
    f = .unsupported s ∨
      ∃ g, f = .url g ∧ occurs "://".toList s.toList = true ∧ Url.split s.toList = .error g := by
  cases hoccurs : occurs "://".toList s.toList with
  | false =>
    simp only [hostAndPath, hoccurs, Bool.false_eq_true, if_false] at h
    split at h
    · cases h
    · exact Or.inl (Except.error.inj h).symm
  | true =>
    rw [hostAndPath_of_locator hoccurs] at h
    cases hsplit : Url.split s.toList with
    | error g =>
      rw [hsplit] at h
      exact Or.inr ⟨g, (Except.error.inj h).symm, rfl, rfl⟩
    | ok url =>
      rw [hsplit] at h
      cases h

/-- **What can be wrong with a remote.** -/
theorem parse_eq_error {f : Fault} (h : parse s = .error f) :
    f = .unsupported s ∨ f = .noPath s ∨
      ∃ g, f = .url g ∧ occurs "://".toList s.toList = true ∧ Url.split s.toList = .error g := by
  cases hfound : hostAndPath s with
  | error g =>
    obtain rfl := Except.error.inj ((parse_of_error hfound).symm.trans h)
    rcases hostAndPath_eq_error hfound with hf | hf
    · exact Or.inl hf
    · exact Or.inr (Or.inr hf)
  | ok found =>
    obtain ⟨host, path⟩ := found
    rw [parse_of_ok hfound] at h
    split at h
    · cases h
    · exact Or.inr (Or.inl (Except.error.inj h).symm)

theorem parse_of_split_error {g : Url.Fault} (h : occurs "://".toList s.toList = true)
    (hsplit : Url.split s.toList = .error g) : parse s = .error (.url g) := by
  refine parse_of_error ?_
  rw [hostAndPath_of_locator h, hsplit]
  rfl

end Remote

/-! ### The remote of a checkout -/

/-- The plain locator of a remote. -/
def Remote.locator (r : Remote) : String :=
  "https://" ++ r.host ++ "/" ++ r.slug ++ ".git"

namespace Checkout

/-- The remote is written in a form that can be rewritten. -/
def Rewritable (s : List Char) : Prop :=
  ".git".toList <:+ s ∧ ('@' ∈ s ∨ "://".toList <:+: s)

variable {s : String} {branch : Option String}

theorem rewritable_iff (s : List Char) :
    (".git".toList.isSuffixOf s && (s.contains '@' || occurs "://".toList s)) = true ↔
      Rewritable s := by
  rw [Bool.and_eq_true, Bool.or_eq_true, List.isSuffixOf_iff_suffix, List.contains_iff_mem,
    occurs_iff, Rewritable]

instance (s : List Char) : Decidable (Rewritable s) :=
  decidable_of_iff _ (rewritable_iff s)

theorem rewriteRemote_of_rewritable (h : Rewritable s.toList) :
    rewriteRemote s = ((Remote.parse s).mapError .remote).map Remote.locator := by
  rw [rewriteRemote, (rewritable_iff _).mpr h]
  cases Remote.parse s <;> rfl

theorem rewriteRemote_of_not_rewritable (h : ¬ Rewritable s.toList) :
    rewriteRemote s = .error (.notRewritable s) := by
  rw [rewriteRemote, Bool.eq_false_iff.mpr (mt (rewritable_iff _).mp h)]
  rfl

/-- The answer to a question that was answered. -/
def trimmed (s : String) : String :=
  String.ofList (trim s.toList)

/-- **The answers name a remote,** and a branch too. -/
def Answers.Names (a : Answers) (r : Remote) : Prop :=
  ∃ s branch, a = { remote := some s, branch := some branch } ∧ Rewritable (trimmed s).toList ∧
    Remote.parse (trimmed s) = .ok r

/-- The answers name one remote at most. -/
theorem Answers.Names.unique {a : Answers} {r q : Remote} (hr : a.Names r) (hq : a.Names q) :
    r = q := by
  obtain ⟨s, branch, rfl, -, hparse⟩ := hr
  obtain ⟨_, _, hsame, -, hparse'⟩ := hq
  cases hsame
  exact Except.ok.inj (hparse.symm.trans hparse')

theorem ofAnswers_of_empty (h : trimmed s = "") :
    ofAnswers { remote := some s, branch } = (answer askBranch branch).map fun b =>
      { branch := if b = "HEAD" then "" else b, remote := "" } := by
  rw [trimmed] at h
  cases branch <;> simp [ofAnswers, answer, h, bind, Except.bind, Except.map, pure, Except.pure]

theorem ofAnswers_of_error {f : Fault} (hne : trimmed s ≠ "")
    (h : rewriteRemote (trimmed s) = .error f) :
    ofAnswers { remote := some s, branch } = .error f := by
  rw [trimmed] at h hne
  simp [ofAnswers, answer, h, hne, bind, Except.bind]

theorem ofAnswers_of_ok {r : String} (hne : trimmed s ≠ "")
    (h : rewriteRemote (trimmed s) = .ok r) :
    ofAnswers { remote := some s, branch } = (answer askBranch branch).map fun b =>
      { branch := if b = "HEAD" then "" else b, remote := r } := by
  rw [trimmed] at h hne
  cases branch <;>
    simp [ofAnswers, answer, h, hne, bind, Except.bind, Except.map, pure, Except.pure]

theorem rewriteRemote_of_parse_error {f : Remote.Fault} (h : Rewritable s.toList)
    (hparse : Remote.parse s = .error f) : rewriteRemote s = .error (.remote f) := by
  rw [rewriteRemote_of_rewritable h, hparse]
  rfl

theorem rewriteRemote_of_parse_ok {r : Remote} (h : Rewritable s.toList)
    (hparse : Remote.parse s = .ok r) : rewriteRemote s = .ok r.locator := by
  rw [rewriteRemote_of_rewritable h, hparse]
  rfl

theorem rewriteRemote_eq_ok {t : String} (h : rewriteRemote s = .ok t) :
    ∃ r, Remote.parse s = .ok r ∧ t = r.locator := by
  by_cases hform : Rewritable s.toList
  · cases hparse : Remote.parse s with
    | error g => cases (rewriteRemote_of_parse_error hform hparse).symm.trans h
    | ok r =>
      rw [rewriteRemote_of_parse_ok hform hparse] at h
      exact ⟨r, rfl, (Except.ok.inj h).symm⟩
  · cases (rewriteRemote_of_not_rewritable hform).symm.trans h

theorem rewriteRemote_eq_error {f : Fault} (h : rewriteRemote s = .error f) :
    ¬ Rewritable s.toList ∧ f = .notRewritable s ∨
      Rewritable s.toList ∧ ∃ g, f = .remote g ∧ Remote.parse s = .error g := by
  by_cases hform : Rewritable s.toList
  · cases hparse : Remote.parse s with
    | error g =>
      rw [rewriteRemote_of_parse_error hform hparse] at h
      exact Or.inr ⟨hform, g, (Except.error.inj h).symm, rfl⟩
    | ok r => cases (rewriteRemote_of_parse_ok hform hparse).symm.trans h
  · rw [rewriteRemote_of_not_rewritable hform] at h
    exact Or.inl ⟨hform, (Except.error.inj h).symm⟩

/-- Answers that name a remote describe a checkout of it. -/
theorem Answers.Names.ofAnswers {a : Answers} {r : Remote} (h : a.Names r) :
    ∃ c, ofAnswers a = .ok c ∧ c.remote = r.locator := by
  obtain ⟨s, branch, rfl, hform, hparse⟩ := h
  have hne : trimmed s ≠ "" := by
    intro hempty
    rw [hempty] at hform
    exact absurd hform.1 (by decide)
  exact ⟨_, ofAnswers_of_ok hne (rewriteRemote_of_parse_ok hform hparse), rfl⟩

/-- **The remote of a checkout** is missing, or it is the plain locator of the one that the answers
name. -/
theorem names_of_ofAnswers {a : Answers} {c : Checkout} (h : ofAnswers a = .ok c) :
    c.remote = "" ∨ ∃ r, a.Names r ∧ c.remote = r.locator := by
  obtain ⟨_ | s, branch⟩ := a
  · cases h
  · by_cases hempty : trimmed s = ""
    · rw [ofAnswers_of_empty hempty] at h
      cases branch <;> cases h
      exact Or.inl rfl
    · by_cases hform : Rewritable (trimmed s).toList
      · cases hparse : Remote.parse (trimmed s) with
        | error f =>
          have hrewrite := rewriteRemote_of_parse_error hform hparse
          cases (ofAnswers_of_error hempty hrewrite).symm.trans h
        | ok r =>
          rw [ofAnswers_of_ok hempty (rewriteRemote_of_parse_ok hform hparse)] at h
          cases branch <;> cases h
          exact Or.inr ⟨r, ⟨s, _, rfl, hform, hparse⟩, rfl⟩
      · cases (ofAnswers_of_error hempty (rewriteRemote_of_not_rewritable hform)).symm.trans h

end Checkout

end BuildLine.Source
