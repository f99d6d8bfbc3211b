import BuildLine.Proofs.Data.Chain
import BuildLine.Proofs.Text.Cutting
import BuildLine.Proofs.Text.Lines
import BuildLine.Proofs.Text.Numeral
import BuildLine.Version

/-!
# The form of a version

A version is meant to be written as three plain numbers with points between them, with a letter in
front and a trail behind if there are any. What is written like this is read, and what the program
writes itself is written like this, so that a version is found again in its text
(`parse_text_iff`). The trail is the one part that can be lost: an empty trail is not written, and
one with a point in it makes a fourth part.

Not only what is written like this is read. The first two numbers have to be made of digits, and so
has the third one if there is a trail behind it; a third number at the end of the text only has to
be a number. So there are two grammars, which differ in that one place, and whether a text is of the
narrower one can be seen at its end (`parse_iff_form`).
-/

namespace BuildLine.Version

open Text
open Text.Numeral (Plain Spells)

/-! ### The grammar -/

/-- What may stand in front of a version. -/
def IsLetter (l : List Char) : Prop :=
  l = [] ∨ l = ['v'] ∨ l = ['V']

/-- **The third number with the trail behind it.** What may stand for the number if there is no
trail is left open. -/
inductive Ending (Bare : List Char → Nat → Prop) : List Char → Nat → Option String → Prop
  /-- A number at the end of the text. -/
  | bare {c : List Char} {n : Nat} (h : Bare c n) : Ending Bare c n none
  /-- A number, a hyphen and a trail. -/
  | trailed {c t : List Char} {n : Nat} (h : Plain c n) (ht : '.' ∉ t) :
      Ending Bare (c ++ '-' :: t) n (some (String.ofList t))

/-- **A text that spells a version.** What may stand for the third number if there is no trail is
left open. -/
def Form (Bare : List Char → Nat → Prop) (s : List Char) (v : Version) : Prop :=
  ∃ letter a b c, s = letter ++ a ++ '.' :: (b ++ '.' :: c) ∧ IsLetter letter ∧
    Plain a v.major ∧ Plain b v.minor ∧ Ending Bare c v.patch v.trail

/-- What stands behind the last point, up to the first hyphen, is made of digits. -/
def EndsInDigits (s : List Char) : Prop :=
  allDigits ((afterLast '.' s).takeWhile (· != '-')) = true

instance (s : List Char) : Decidable (EndsInDigits s) :=
  inferInstanceAs (Decidable (_ = _))

/-! ### The signs between the parts -/

section Signs

variable {s c letter : List Char} {n : Nat} {trail : Option String}

theorem IsLetter.not_mem (h : IsLetter letter) {d : Char} (hd : d ≠ 'v' ∧ d ≠ 'V') :
    d ∉ letter := by
  rcases h with rfl | rfl | rfl
  · simp
  · simpa using hd.1
  · simpa using hd.2

theorem point_not_mem_of_spells (h : Spells s n) : '.' ∉ s :=
  fun hmem => absurd (h.of_mem hmem) (by decide)

theorem hyphen_not_mem_of_spells (h : Spells s n) : '-' ∉ s :=
  fun hmem => absurd (h.of_mem hmem) (by decide)

theorem spells_of_plain (h : Plain s n) : Spells s n :=
  (Numeral.plain_iff.mp h).1

theorem allDigits_of_plain (h : Plain s n) : allDigits s = true :=
  (Numeral.plain_iff.mp h).2

/-- No point stands in an ending, so the last point of a version is in front of it. -/
theorem Ending.point_not_mem (h : Ending Spells c n trail) : '.' ∉ c := by
  cases h with
  | bare h => exact point_not_mem_of_spells h
  | trailed h ht => simpa using ⟨point_not_mem_of_spells (spells_of_plain h), ht⟩

/-- The two grammars differ in what can be seen at the end. -/
theorem Ending.plain_iff :
    Ending Plain c n trail ↔
      Ending Spells c n trail ∧ allDigits (c.takeWhile (· != '-')) = true := by
  have htake {t : List Char} (ht : '-' ∉ t) (rest : List Char) :
      t.takeWhile (· != '-') = t ∧ (t ++ '-' :: rest).takeWhile (· != '-') = t := by
    have hne : ∀ d ∈ t, (d != '-') = true := fun d hd => bne_iff_ne.mpr fun h => ht (h ▸ hd)
    exact ⟨List.takeWhile_eq_self_iff.mpr hne, takeWhile_append_cons hne (by simp)⟩
  constructor
  · intro h
    cases h with
    | bare h =>
      have hspells := spells_of_plain h
      rw [(htake (hyphen_not_mem_of_spells hspells) []).1]
      exact ⟨.bare hspells, allDigits_of_plain h⟩
    | trailed h ht =>
      rw [(htake (hyphen_not_mem_of_spells (spells_of_plain h)) _).2]
      exact ⟨.trailed h ht, allDigits_of_plain h⟩
  · rintro ⟨h, hdigits⟩
    cases h with
    | bare h =>
      rw [(htake (hyphen_not_mem_of_spells h) []).1] at hdigits
      exact .bare (Numeral.plain_iff.mpr ⟨h, hdigits⟩)
    | trailed h ht => exact .trailed h ht

/-- **The two grammars** differ in the end of the text only. -/
theorem form_plain_iff {v : Version} : Form Plain s v ↔ Form Spells s v ∧ EndsInDigits s := by
  have hends {a b c : List Char} (hc : Ending Spells c v.patch v.trail) :
      EndsInDigits (a ++ '.' :: (b ++ '.' :: c)) ↔
        allDigits (c.takeWhile (· != '-')) = true := by
    rw [EndsInDigits, afterLast_append_cons, afterLast_append_cons,
      afterLast_of_not_mem hc.point_not_mem]
  constructor
  · rintro ⟨letter, a, b, c, rfl, hletter, ha, hb, hc⟩
    obtain ⟨hspells, hdigits⟩ := Ending.plain_iff.mp hc
    exact ⟨⟨letter, a, b, c, rfl, hletter, ha, hb, hspells⟩, (hends hspells).mpr hdigits⟩
  · rintro ⟨⟨letter, a, b, c, rfl, hletter, ha, hb, hc⟩, hdigits⟩
    exact ⟨letter, a, b, c, rfl, hletter, ha, hb,
      Ending.plain_iff.mpr ⟨hc, (hends hc).mp hdigits⟩⟩

end Signs

/-! ### Reading the parts -/

section Parts

variable {a b c n : List Char} {k : Nat} {v : Version} {trail : Option String}

theorem number_eq_ok_iff : number n = .ok k ↔ Spells n k := by
  rw [number, ← Numeral.read_eq_ok_iff]
  cases Numeral.read n <;> simp [Except.mapError]

theorem requireDigits_eq_ok_iff {u : Unit} : requireDigits n = .ok u ↔ allDigits n = true := by
  rw [requireDigits]
  split <;> simp_all

/-- The letter is known by not being a digit. -/
theorem withoutLetter_eq_ok_iff (hn : allDigits n = true) :
    withoutLetter a = .ok n ↔ ∃ letter, IsLetter letter ∧ a = letter ++ n := by
  constructor
  · intro h
    cases a with
    | nil => cases h
    | cons d a =>
      simp only [withoutLetter, Except.ok.injEq, Bool.or_eq_true, decide_eq_true_eq] at h
      split_ifs at h with hd
      · subst h
        exact ⟨[d], hd.elim (by rintro rfl; simp [IsLetter]) (by rintro rfl; simp [IsLetter]), rfl⟩
      · subst h
        exact ⟨[], Or.inl rfl, rfl⟩
  · rintro ⟨letter, hletter, rfl⟩
    obtain ⟨hne, hdigits⟩ := allDigits_iff.mp hn
    obtain ⟨d, n, rfl⟩ := List.exists_cons_of_ne_nil hne
    rcases hletter with rfl | rfl | rfl
    · have hd := hdigits d (List.mem_cons_self ..)
      have hletter : ¬ (d = 'v' ∨ d = 'V') := by
        rintro (rfl | rfl)
        · exact absurd hd (by decide)
        · exact absurd hd (by decide)
      simp [withoutLetter, hletter]
    · rfl
    · rfl

/-- **The third part is read** as the number and the trail that it spells. -/
theorem cutTrail_iff (hc : '.' ∉ c) :
    (∃ n, cutTrail c = .ok (n, trail) ∧ number n = .ok k) ↔ Ending Spells c k trail := by
  simp only [number_eq_ok_iff]
  constructor
  · rintro ⟨n, hcut, hn⟩
    rw [cutTrail] at hcut
    split at hcut
    · obtain ⟨rfl, rfl⟩ := Prod.mk.inj (Except.ok.inj hcut)
      exact .bare hn
    · rename_i m t hfirst
      obtain ⟨u, hdigits, hcut⟩ := bind_eq_ok.mp hcut
      obtain ⟨rfl, rfl⟩ := Prod.mk.inj (Except.ok.inj hcut)
      obtain rfl := eq_of_cutFirst?_eq_some hfirst
      refine .trailed (Numeral.plain_iff.mpr ⟨hn, requireDigits_eq_ok_iff.mp hdigits⟩) fun ht => ?_
      exact hc (List.mem_append_right _ (List.mem_cons_of_mem _ ht))
  · intro h
    cases h with
    | bare h => exact ⟨c, by rw [cutTrail, cutFirst?_of_not_mem (hyphen_not_mem_of_spells h)], h⟩
    | @trailed n t _ h ht =>
      have hspells := spells_of_plain h
      have hdigits : requireDigits n = .ok () := requireDigits_eq_ok_iff.mpr (allDigits_of_plain h)
      refine ⟨n, ?_, hspells⟩
      rw [cutTrail, cutFirst?_append_cons (hyphen_not_mem_of_spells hspells)]
      simp [hdigits, bind, Except.bind, pure, Except.pure]

/-- **Three parts are read** as what they spell. -/
theorem ofParts_eq_ok_iff (hc : '.' ∉ c) :
    ofParts a b c = .ok v ↔
      ∃ letter n, a = letter ++ n ∧ IsLetter letter ∧ Plain n v.major ∧ Plain b v.minor ∧
        Ending Spells c v.patch v.trail := by
  simp only [ofParts, bind_eq_ok, requireDigits_eq_ok_iff, Numeral.plain_iff, ← cutTrail_iff hc,
    number_eq_ok_iff]
  constructor
  · rintro ⟨n, hn, u, hdigits, u', hb, ⟨m, trail⟩, hcut, major, hmajor, minor, hminor, patch,
      hpatch, hv⟩
    obtain rfl := Except.ok.inj hv
    obtain ⟨letter, hletter, rfl⟩ := (withoutLetter_eq_ok_iff hdigits).mp hn
    exact ⟨letter, n, rfl, hletter, ⟨hmajor, hdigits⟩, ⟨hminor, hb⟩, m, hcut, hpatch⟩
  · rintro ⟨letter, n, rfl, hletter, ⟨hmajor, hdigits⟩, ⟨hminor, hb⟩, m, hcut, hpatch⟩
    exact ⟨n, (withoutLetter_eq_ok_iff hdigits).mpr ⟨letter, hletter, rfl⟩, (), hdigits, (), hb,
      (m, v.trail), hcut, _, hmajor, _, hminor, _, hpatch, rfl⟩

end Parts

/-! ### Reading a version -/

section Reading

variable {s : String} {v : Version}

theorem parse_of_splitAt {a b c : List Char} (h : splitAt '.' s.toList = [a, b, c]) :
    parse s = (ofParts a b c).map some := by
  have hs : ¬ s.isEmpty = true := by
    rw [String.isEmpty_iff]
    rintro rfl
    cases h
  rw [parse, if_neg hs, h]

/-- Only what has three parts is read. -/
theorem exists_splitAt_of_parse {o : Option Version} (hs : s ≠ "") (h : parse s = .ok o) :
    ∃ a b c, splitAt '.' s.toList = [a, b, c] := by
  rw [parse, if_neg (mt String.isEmpty_iff.mp hs)] at h
  split at h
  · rename_i a b c hparts
    exact ⟨a, b, c, hparts⟩
  · cases h

theorem parse_eq_ok_none_iff : parse s = .ok none ↔ s = "" := by
  constructor
  · intro h
    by_contra hs
    obtain ⟨a, b, c, hparts⟩ := exists_splitAt_of_parse hs h
    rw [parse_of_splitAt hparts] at h
    cases hv : ofParts a b c <;> rw [hv] at h <;> cases h
  · rintro rfl
    rfl

/-- **The texts that are read as a version**: those of the wider grammar. -/
theorem parse_eq_ok_some_iff : parse s = .ok (some v) ↔ Form Spells s.toList v := by
  have hjoin (a b c : List Char) : a ++ '.' :: (b ++ '.' :: c) = joinWith ['.'] [a, b, c] := by
    simp [joinWith]
  constructor
  · intro h
    have hs : s ≠ "" := by
      rintro rfl
      cases h
    obtain ⟨a, b, c, hparts⟩ := exists_splitAt_of_parse hs h
    obtain ⟨htext, hpoints⟩ := (splitAt_eq_iff (by simp)).mp hparts
    have hv : ofParts a b c = .ok v := by
      rw [parse_of_splitAt hparts] at h
      cases hv : ofParts a b c <;> rw [hv] at h <;> simp_all [Except.map]
    obtain ⟨letter, n, rfl, hletter, hn, hb, hc⟩ := (ofParts_eq_ok_iff (hpoints c (by simp))).mp hv
    exact ⟨letter, n, b, c, by rw [htext, hjoin], hletter, hn, hb, hc⟩
  · rintro ⟨letter, n, b, c, htext, hletter, hn, hb, hc⟩
    have hpoint : '.' ∉ letter ++ n := by
      rw [List.mem_append, not_or]
      exact ⟨hletter.not_mem (by decide), point_not_mem_of_spells (spells_of_plain hn)⟩
    have hparts : splitAt '.' s.toList = [letter ++ n, b, c] := by
      rw [splitAt_eq_iff (by simp), htext, hjoin]
      have hb := point_not_mem_of_spells (spells_of_plain hb)
      simp [hb, hc.point_not_mem, hpoint]
    have hv := (ofParts_eq_ok_iff hc.point_not_mem).mpr ⟨letter, n, rfl, hletter, hn, hb, hc⟩
    rw [parse_of_splitAt hparts, hv]
    rfl

/-- **Which texts are versions.** What is read is what the wider grammar has, and it is written as a
version should be exactly if it ends in digits, up to the first hyphen behind the last point. Every
other text but the empty one is refused. -/
theorem parse_iff_form (s : String) :
    (∀ v, parse s = .ok (some v) ↔ Form Spells s.toList v) ∧
      (∀ v, Form Plain s.toList v ↔ parse s = .ok (some v) ∧ EndsInDigits s.toList) ∧
      ((∃ f, parse s = .error f) ↔ s ≠ "" ∧ ∀ v, ¬ Form Spells s.toList v) := by
  refine ⟨fun v => parse_eq_ok_some_iff, fun v => ?_, ?_⟩
  · rw [form_plain_iff, parse_eq_ok_some_iff]
  · rw [Ne, ← parse_eq_ok_none_iff]
    simp only [← parse_eq_ok_some_iff]
    rcases parse s with f | _ | v <;> simp

/-- **A sign in front of the third number** is read, but no version should be written like this. -/
theorem parse_of_sign :
    parse "1.2.+3" = .ok (some { major := 1, minor := 2, patch := 3, trail := none }) ∧
      ∀ v, ¬ Form Plain "1.2.+3".toList v := by
  refine ⟨by rfl, fun v h => ?_⟩
  exact absurd (form_plain_iff.mp h).2 (by decide)

end Reading

/-! ### A version in its text -/

section Writing

variable {v : Version} {letter : List Char}

/-- None of the numbers of a version is too long to be read. -/
def Short (v : Version) : Prop :=
  ∀ n ∈ [v.major, v.minor, v.patch], (Nat.toDigits 10 n).length ≤ Numeral.maxDigits

instance (v : Version) : Decidable v.Short :=
  inferInstanceAs (Decidable (∀ n ∈ _, _))

/-- The trail can be told from what stands in front of it: it is not empty and has no point. -/
def TrailStays (v : Version) : Prop :=
  ∀ t, v.trail = some t → t ≠ "" ∧ '.' ∉ t.toList

theorem hyphen_not_mem_toDigits (n : Nat) : '-' ∉ Nat.toDigits 10 n :=
  fun h => absurd (Nat.isDigit_of_mem_toDigits (by omega) (by omega) h) (by decide)

/-- Without a trail that is written there is no hyphen. -/
theorem hyphen_not_mem_spell (h : v.trail = some "") : '-' ∉ v.spell := by
  simp [spell, h, hyphen_not_mem_toDigits]

/-- **Versions are written as they should be.** -/
theorem form_spell (h : v.Short) (htrail : v.TrailStays) (hletter : IsLetter letter) :
    Form Plain (letter ++ v.spell) v := by
  have hplain (n : Nat) (hn : n ∈ [v.major, v.minor, v.patch]) : Plain (Nat.toDigits 10 n) n :=
    Numeral.plain_toDigits (h n hn)
  have hpatch := hplain v.patch (by simp)
  cases hv : v.trail with
  | none =>
    have hend : Ending Plain (Nat.toDigits 10 v.patch) v.patch v.trail := hv ▸ Ending.bare hpatch
    refine ⟨letter, _, _, _, ?_, hletter, hplain v.major (by simp), hplain v.minor (by simp), hend⟩
    simp [spell, hv]
  | some t =>
    obtain ⟨hne, hpoint⟩ := htrail t hv
    have hend : Ending Plain (Nat.toDigits 10 v.patch ++ '-' :: t.toList) v.patch
        (some (String.ofList t.toList)) := .trailed hpatch hpoint
    rw [String.ofList_toList, ← hv] at hend
    refine ⟨letter, _, _, _, ?_, hletter, hplain v.major (by simp), hplain v.minor (by simp), hend⟩
    simp [spell, hv, hne]

/-- **A version is found again in its text**, with a letter in front or not, exactly if its trail
is not empty and has no point. -/
theorem parse_text_iff (h : v.Short) (hletter : IsLetter letter) :
    parse (String.ofList letter ++ v.text) = .ok (some v) ↔ v.TrailStays := by
  have hlist : (String.ofList letter ++ v.text).toList = letter ++ v.spell := by simp [text]
  rw [parse_eq_ok_some_iff, hlist]
  constructor
  · rintro ⟨letter', a, b, c, htext, -, -, -, hc⟩ t ht
    rw [ht] at hc
    cases hc with
    | @trailed c w _ _ hw =>
      refine ⟨?_, by rwa [String.toList_ofList]⟩
      intro hempty
      have hmem : '-' ∈ letter ++ v.spell := by simp [htext]
      rcases List.mem_append.mp hmem with hmem | hmem
      · exact hletter.not_mem (by decide) hmem
      · exact hyphen_not_mem_spell (hempty ▸ ht) hmem
  · exact fun htrail => (form_plain_iff.mp (form_spell h htrail hletter)).1

/-- A trail with a hyphen and a blank in it. -/
theorem parse_text_iff_late :
    let v : Version := { major := 10, minor := 0, patch := 7, trail := some "rc-1 late" }
    v.text = "10.0.7-rc-1 late" ∧ v.Short ∧ v.TrailStays ∧
      parse (String.ofList ['V'] ++ v.text) = .ok (some v) := by
  intro v
  have hshort : v.Short := by decide
  have htrail : v.TrailStays := by
    intro t ht
    obtain rfl := Option.some.inj ht
    decide
  have hletter : IsLetter ['V'] := Or.inr (Or.inr rfl)
  exact ⟨by decide +kernel, hshort, htrail, (parse_text_iff hshort hletter).mpr htrail⟩

end Writing

end BuildLine.Version
