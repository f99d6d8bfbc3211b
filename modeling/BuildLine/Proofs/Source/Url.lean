import Mathlib
import BuildLine.Proofs.Text.Cutting
import BuildLine.Proofs.Text.Visible
import BuildLine.Source.Url

/-!
# How locators are cut

A locator with a proper scheme is cut at its scheme whatever follows. Of what follows only the
*legible* part counts: without tabs and line ends, and up to the first question mark or hash. It is
cut once more, at its first slash: in front of it stands the authority and from it on the path. This
is the reading of `split` that the other statements on locators use (`split_locator`).
-/

namespace BuildLine.Source.Url

open Text

/-! ### Nothing to cut -/

section Cutting

variable {s : List Char} {c : Char}

theorem before_of_not_mem (h : c ∉ s) : before c s = s :=
  List.takeWhile_eq_self_iff.mpr fun _ hd => bne_iff_ne.mpr fun hdc => h (hdc ▸ hd)

/-- A path without semicolons has no parameters. -/
theorem withoutParameters_of_not_mem (h : ';' ∉ s) : withoutParameters s = s := by
  rw [withoutParameters]
  split
  · exact before_of_not_mem h
  · rename_i hcut
    have hs := eq_of_cutLast?_eq_some hcut
    rw [before_of_not_mem, ← hs]
    intro hmem
    exact h (hs ▸ List.mem_append_right _ (List.mem_cons_of_mem _ hmem))

end Cutting

/-! ### Schemes -/

/-- **A proper scheme**: a letter, and after it letters, digits and the three signs of a scheme. -/
structure IsScheme (scheme : List Char) : Prop where
  /-- It begins with a letter. -/
  head : ∃ c cs, scheme = c :: cs ∧ c.isAlpha = true
  /-- It has no other characters than those of a scheme. -/
  all : ∀ c ∈ scheme, isSchemeChar c = true

theorem isScheme_https : IsScheme "https".toList :=
  ⟨⟨_, _, rfl, by decide⟩, List.all_eq_true.mp (by decide)⟩

theorem isVisible_of_isSchemeChar {c : Char} (h : isSchemeChar c = true) : IsVisible c := by
  simp only [isSchemeChar, Bool.or_eq_true, decide_eq_true_eq] at h
  rcases h with ((h | rfl) | rfl) | rfl
  · simp only [Char.isAlphanum, Char.isAlpha, Char.isUpper, Char.isLower, Char.isDigit,
      Bool.or_eq_true, Bool.and_eq_true, decide_eq_true_eq, UInt32.le_iff_toNat_le, ge_iff_le] at h
    change ((65 ≤ c.toNat ∧ c.toNat ≤ 90) ∨ (97 ≤ c.toNat ∧ c.toNat ≤ 122)) ∨
      (48 ≤ c.toNat ∧ c.toNat ≤ 57) at h
    constructor <;> omega
  all_goals decide

theorem IsScheme.colon_not_mem {scheme : List Char} (h : IsScheme scheme) : ':' ∉ scheme :=
  fun hmem => absurd (h.all _ hmem) (by decide)

/-! ### What is read of a text -/

/-- The text without tabs and line ends, which are dropped wherever they stand. -/
def withoutBreaks (s : List Char) : List Char :=
  s.filter fun c => !(c = '\t' || c = '\r' || c = '\n')

/-- **The legible part of a text** behind a scheme. -/
def legible (t : List Char) : List Char :=
  (withoutBreaks t).takeWhile fun c => !(c = '?' || c = '#')

/-- The authority of a text behind a scheme. -/
def authorityOf (t : List Char) : List Char :=
  (legible t).takeWhile (· != '/')

/-- The path of a text behind a scheme, with the parameters of its last segment. -/
def pathOf (t : List Char) : List Char :=
  (legible t).dropWhile (· != '/')

/-- A text is legible as a whole if nothing is dropped from it and nothing ends it. -/
theorem legible_eq_self {t : List Char} (h : ∀ c ∈ t, c ∉ ['?', '#', '\t', '\r', '\n']) :
    legible t = t := by
  have hne : ∀ c ∈ t, c ≠ '?' ∧ c ≠ '#' ∧ c ≠ '\t' ∧ c ≠ '\r' ∧ c ≠ '\n' := by simpa using h
  have hbreaks : withoutBreaks t = t := by
    refine List.filter_eq_self.mpr fun c hc => ?_
    obtain ⟨-, -, htab, hreturn, hline⟩ := hne c hc
    simp [htab, hreturn, hline]
  rw [legible, hbreaks]
  refine List.takeWhile_eq_self_iff.mpr fun c hc => ?_
  obtain ⟨hquestion, hhash, -⟩ := hne c hc
  simp [hquestion, hhash]

section Visible

variable {s t : List Char} {c : Char}

theorem not_isControlOrSpace (h : IsVisible c) : isControlOrSpace c = false := by
  rw [isControlOrSpace, decide_eq_false_iff_not]
  have := h.1
  omega

theorem withoutBreaks_of_visible (h : ∀ c ∈ s, IsVisible c) : withoutBreaks s = s := by
  refine List.filter_eq_self.mpr fun c hc => ?_
  have hne {d : Char} (hd : ¬ IsVisible d) : c ≠ d := fun hcd => hd (hcd ▸ h c hc)
  simp [hne (d := '\t') (by decide), hne (d := '\r') (by decide), hne (d := '\n') (by decide)]

theorem withoutBreaks_append (s t : List Char) :
    withoutBreaks (s ++ t) = withoutBreaks s ++ withoutBreaks t :=
  List.filter_append ..

/-- A text that begins with something visible has nothing dropped from its front. -/
theorem cleaned_of_visible (h : IsVisible c) : cleaned (c :: t) = withoutBreaks (c :: t) := by
  rw [cleaned, trimLeft, List.dropWhile_cons_of_neg (by simp [not_isControlOrSpace h])]
  rfl

end Visible

/-! ### Cutting behind a scheme -/

/-- A text that does not begin with a slash has no authority. -/
theorem cutAuthority_of_head? {s : List Char} (h : s.head? ≠ some '/') :
    cutAuthority s = ([], s) := by
  unfold cutAuthority
  split
  · simp at h
  · rfl

/-- A scheme is cut off at a colon, or none is. -/
theorem cutScheme_cases (s : List Char) :
    (cutScheme s).2 = s ∨ ∃ scheme rest, s = scheme ++ ':' :: rest ∧
      (∀ c ∈ scheme, isSchemeChar c = true) ∧ (cutScheme s).2 = rest := by
  rw [cutScheme]
  split
  · exact Or.inl rfl
  · rename_i scheme rest hcut
    split
    · exact Or.inl rfl
    · split
      · rename_i hscheme
        rw [Bool.and_eq_true, List.all_eq_true] at hscheme
        exact Or.inr ⟨_, _, eq_of_cutFirst?_eq_some hcut, hscheme.2, rfl⟩
      · exact Or.inl rfl

/-- Nothing behind the first hash is read, and nothing behind the first question mark. -/
theorem before_before (s : List Char) :
    before '?' (before '#' s) = s.takeWhile fun c => !(c = '?' || c = '#') := by
  rw [before, before, List.takeWhile_takeWhile]
  refine congrArg (List.takeWhile · s) (funext fun c => ?_)
  by_cases hquestion : c = '?' <;> by_cases hhash : c = '#' <;> simp [hquestion, hhash]

/-- Behind the two slashes stand the authority and the path. -/
theorem cutAuthority_legible (t : List Char) :
    (cutAuthority ('/' :: '/' :: withoutBreaks t)).1 = authorityOf t ∧
      before '?' (before '#' (cutAuthority ('/' :: '/' :: withoutBreaks t)).2) = pathOf t := by
  simp only [cutAuthority, before_before, authorityOf, pathOf, legible]
  generalize withoutBreaks t = s
  induction s with
  | nil => exact ⟨rfl, rfl⟩
  | cons c s ih =>
    -- the first character goes on with the authority or is one of those that end it
    by_cases hslash : c = '/'
    · simp [hslash]
    · by_cases hend : c = '?' ∨ c = '#'
      · rcases hend with rfl | rfl <;> simp
      · obtain ⟨hquestion, hhash⟩ := not_or.mp hend
        simpa [hslash, hquestion, hhash] using ih

theorem IsScheme.withoutBreaks {scheme : List Char} (h : IsScheme scheme) :
    Url.withoutBreaks scheme = scheme :=
  withoutBreaks_of_visible fun c hc => isVisible_of_isSchemeChar (h.all c hc)

/-- **The reading of a locator with a proper scheme.** -/
theorem split_locator {scheme : List Char} (h : IsScheme scheme) (t : List Char) :
    split (scheme ++ "://".toList ++ t) = (checkAuthority (authorityOf t)).map fun _ =>
      { scheme := scheme.map Char.toLower
        authority := authorityOf t
        path := if withParameters.contains (String.ofList (scheme.map Char.toLower)) then
            withoutParameters (pathOf t)
          else pathOf t } := by
  obtain ⟨c, cs, hscheme, halpha⟩ := h.head
  have hc : IsVisible c := isVisible_of_isSchemeChar (h.all c (by simp [hscheme]))
  have hslashes : Url.withoutBreaks "://".toList = "://".toList := by decide
  have hcleaned : cleaned (scheme ++ "://".toList ++ t) =
      scheme ++ ':' :: '/' :: '/' :: Url.withoutBreaks t := by
    rw [hscheme, List.cons_append, List.cons_append, cleaned_of_visible hc, ← List.cons_append,
      ← List.cons_append, withoutBreaks_append, withoutBreaks_append, ← hscheme, h.withoutBreaks,
      hslashes, List.append_assoc]
    rfl
  have hcut : cutScheme (scheme ++ ':' :: '/' :: '/' :: Url.withoutBreaks t) =
      (scheme.map Char.toLower, '/' :: '/' :: Url.withoutBreaks t) := by
    rw [cutScheme, cutFirst?_append_cons h.colon_not_mem, hscheme]
    simp only [halpha, ← hscheme, List.all_eq_true.mpr h.all, Bool.and_self, if_true]
  obtain ⟨hauthority, hpath⟩ := cutAuthority_legible t
  rw [split, hcleaned, hcut]
  simp only [hauthority, hpath]
  cases checkAuthority (authorityOf t) <;> rfl

/-! ### Authorities that are refused -/

section Authority

variable {a b : List Char}

theorem brackets_iff (a : List Char) :
    (a.contains '[' != a.contains ']') = true ↔ ¬ ('[' ∈ a ↔ ']' ∈ a) := by
  rw [bne_iff_ne, Ne, Bool.eq_iff_iff, List.contains_iff_mem, List.contains_iff_mem]

theorem separators_iff (a : List Char) :
    (a.any fun c => hiddenSeparators.contains c.toNat) = true ↔
      ¬ ∀ c ∈ a, c.toNat ∉ hiddenSeparators := by
  simp only [List.any_eq_true, List.contains_iff_mem, not_forall, not_not, exists_prop]

/-- **An authority is accepted** if its brackets are in order and no character of it could be
mistaken for a separator. -/
theorem checkAuthority_eq_ok_iff :
    checkAuthority a = .ok () ↔
      ('[' ∈ a ↔ ']' ∈ a) ∧ ∀ c ∈ a, c.toNat ∉ hiddenSeparators := by
  rw [checkAuthority]
  split
  · rename_i h
    exact iff_of_false nofun fun hok => (brackets_iff a).mp h hok.1
  · rename_i h
    split
    · rename_i hany
      exact iff_of_false nofun fun hok => (separators_iff a).mp hany hok.2
    · rename_i hany
      exact iff_of_true rfl
        ⟨not_not.mp (mt (brackets_iff a).mpr h), not_not.mp (mt (separators_iff a).mpr hany)⟩

/-- The brackets are looked at first. -/
theorem checkAuthority_eq_loneBracket_iff :
    checkAuthority a = .error .loneBracket ↔ ¬ ('[' ∈ a ↔ ']' ∈ a) := by
  rw [checkAuthority, ← brackets_iff]
  split
  · rename_i h
    exact iff_of_true rfl h
  · rename_i h
    refine iff_of_false ?_ h
    split <;> nofun

/-- A hidden separator is told by the authority as a whole. -/
theorem eq_of_checkAuthority_eq_hiddenSeparator
    (h : checkAuthority a = .error (.hiddenSeparator b)) : b = a := by
  rw [checkAuthority] at h
  split at h
  · cases h
  · split at h <;> cases h
    rfl

end Authority

end BuildLine.Source.Url
