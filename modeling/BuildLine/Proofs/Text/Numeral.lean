import BuildLine.Text.Numeral
import Mathlib.Data.List.TakeWhile

/-!
# Which texts are numbers

A number may be written in more ways than one thinks of: with padding around it, a plus sign in
front and underscores between its decimals. `Spells` is the grammar of all of them, and
`read_eq_ok_iff` says that it is the grammar of what can be read. `Plain` numbers are made of
decimals and nothing else. They are exactly the ones that also pass the check "made of digits"
(`plain_iff`), although that check takes digits that are no decimals and does not look at the
length: these are refused when the number is read.

The characters that may stand in a number are of four kinds, and no character is of two of them.
So there is only one place where the padding ends and one where the decimals do.
-/

namespace BuildLine.Text

/-! ### Digits are no blanks -/

theorem CodeRanges.not_covers_of_disjoint {r r' : CodeRanges} {n : Nat}
    (h : ∀ p ∈ r, ∀ q ∈ r', p.2 < q.1 ∨ q.2 < p.1) (hn : r.covers n = true) :
    r'.covers n = false := by
  obtain ⟨p, hp, hlo, hhi⟩ := covers_iff.mp hn
  rw [Bool.eq_false_iff, Ne, covers_iff]
  rintro ⟨q, hq, hqlo, hqhi⟩
  have := h p hp q hq
  omega

/-- All digits: those of ASCII, the other decimals, and the digits that are no decimals. -/
def digitRanges : CodeRanges :=
  (48, 57) :: (decimalRanges ++ otherDigitRanges)

variable {c : Char} {s : List Char}

theorem toNat_of_isDigit (h : c.isDigit = true) : 48 ≤ c.toNat ∧ c.toNat ≤ 57 := by
  simp only [Char.isDigit, Bool.and_eq_true, decide_eq_true_eq, ge_iff_le,
    UInt32.le_iff_toNat_le] at h
  exact h

theorem covers_digitRanges (h : isDigit c = true) : digitRanges.covers c.toNat = true := by
  rw [digitRanges, CodeRanges.covers, List.any_cons, List.any_append]
  rw [isDigit] at h
  split at h
  · have := toNat_of_isDigit h
    simp [this]
  · rw [← CodeRanges.covers, ← CodeRanges.covers, h, Bool.or_true]

theorem not_isBlank_of_isDigit (h : isDigit c = true) : isBlank c = false :=
  CodeRanges.not_covers_of_disjoint (by decide +kernel) (covers_digitRanges h)

/-- A digit of ASCII is a decimal. -/
theorem decimal?_of_isDigit (h : c.isDigit = true) : decimal? c = some (c.toNat - 48) := by
  have := toNat_of_isDigit h
  rw [decimal?, if_pos (by omega), if_pos h]

theorem allDigits_iff : allDigits s = true ↔ s ≠ [] ∧ ∀ c ∈ s, isDigit c = true := by
  simp [allDigits]

namespace Numeral

variable {rest : List Char} {d n : Nat} {ds : List Nat} {barred : Bool}

theorem not_isPadding_of_isDigit (h : isDigit c = true) : isPadding c = false := by
  rw [isPadding, not_isBlank_of_isDigit h, Bool.false_and]

theorem ne_underscore_of_decimal? (h : decimal? c = some d) : c ≠ '_' := by
  rintro rfl
  have hnone : decimal? '_' = none := by decide
  rw [hnone] at h
  cases h

/-! ### Decimals with underscores between them -/

/-- **Decimals with underscores between them**, one by one, and what the decimals are. -/
inductive Barred : List Char → List Nat → Prop
  /-- A decimal. -/
  | one {c : Char} {d : Nat} (h : decimal? c = some d) : Barred [c] [d]
  /-- A decimal in front of others. -/
  | cons {c : Char} {s : List Char} {d : Nat} {ds : List Nat} (h : decimal? c = some d)
      (hs : Barred s ds) : Barred (c :: s) (d :: ds)
  /-- A decimal in front of others, with an underscore between. -/
  | bar {c : Char} {s : List Char} {d : Nat} {ds : List Nat} (h : decimal? c = some d)
      (hs : Barred s ds) : Barred (c :: '_' :: s) (d :: ds)

/-- Decimals do not go on here. -/
def Stops (rest : List Char) : Prop :=
  ∀ c ∈ rest.head?, c ≠ '_' ∧ decimal? c = none

theorem Stops.of_isPadding (h : ∀ c ∈ rest, isPadding c = true) : Stops rest := by
  intro c hc
  have hpadding := h c (List.mem_of_mem_head? hc)
  constructor
  · rintro rfl
    exact absurd hpadding (by decide)
  · by_contra hd
    obtain ⟨d, hd⟩ := Option.ne_none_iff_exists'.mp hd
    rw [not_isPadding_of_isDigit (isDigit_of_decimal? hd)] at hpadding
    cases hpadding

theorem scan_of_stops (h : Stops rest) : scan false rest = some ([], rest) := by
  cases rest with
  | nil => rfl
  | cons c rest =>
    obtain ⟨hc, hd⟩ := h c rfl
    simp [scan, hc, hd]

theorem scan_decimal (h : decimal? c = some d) (barred : Bool) (s : List Char) :
    scan barred (c :: s) = (scan false s).map fun r => (d :: r.1, r.2) := by
  rw [scan, if_neg (ne_underscore_of_decimal? h), h]

/-- All the decimals are found, wherever one begins to look for them. -/
theorem Barred.scan_append (h : Barred s ds) (hrest : Stops rest) (barred : Bool) :
    scan barred (s ++ rest) = some (ds, rest) := by
  induction h generalizing barred with
  | one h => rw [List.singleton_append, scan_decimal h, scan_of_stops hrest, Option.map_some]
  | cons h _ ih => rw [List.cons_append, scan_decimal h, ih, Option.map_some]
  | bar h _ ih =>
    rw [List.cons_append, scan_decimal h, List.cons_append, scan, if_pos rfl,
      if_neg Bool.false_ne_true, ih, Option.map_some]

/-- What is found are decimals; where underscores are allowed there may be one in front of them, or
nothing at all. -/
theorem exists_of_scan_eq_some (h : scan barred s = some (ds, rest)) :
    ∃ body, s = body ++ rest ∧
      (Barred body ds ∨
        barred = false ∧ (body = [] ∧ ds = [] ∨ ∃ t, body = '_' :: t ∧ Barred t ds)) := by
  fun_induction scan barred s generalizing ds with
  | case1 => cases h
  | case2 b hb =>
    obtain ⟨rfl, rfl⟩ := Prod.mk.inj (Option.some.inj h)
    exact ⟨[], rfl, Or.inr ⟨by simpa using hb, Or.inl ⟨rfl, rfl⟩⟩⟩
  | case3 => cases h
  | case4 b s hb ih =>
    obtain ⟨body, rfl, hbody⟩ := ih h
    have hbarred : Barred body ds := hbody.resolve_right fun hfalse => nomatch hfalse.1
    exact ⟨'_' :: body, rfl, Or.inr ⟨by simpa using hb, Or.inr ⟨body, rfl, hbarred⟩⟩⟩
  | case5 b c s hc d hd ih =>
    obtain ⟨⟨ds, rest⟩, hscan, heq⟩ := Option.map_eq_some_iff.mp h
    obtain ⟨rfl, rfl⟩ := Prod.mk.inj heq
    obtain ⟨body, rfl, hbody⟩ := ih hscan
    refine ⟨c :: body, rfl, Or.inl ?_⟩
    rcases hbody with hbody | ⟨-, ⟨rfl, rfl⟩ | ⟨t, rfl, ht⟩⟩
    · exact .cons hd hbody
    · exact .one hd
    · exact .bar hd ht
  | case6 => cases h
  | case7 b c s hc hd hb =>
    obtain ⟨rfl, rfl⟩ := Prod.mk.inj (Option.some.inj h)
    exact ⟨[], rfl, Or.inr ⟨by simpa using hb, Or.inl ⟨rfl, rfl⟩⟩⟩

theorem Barred.of_mem (h : Barred s ds) (hc : c ∈ s) : c = '_' ∨ (decimal? c).isSome = true := by
  induction h with
  | one h =>
    obtain rfl := List.mem_singleton.mp hc
    exact Or.inr (by rw [h]; rfl)
  | cons h _ ih =>
    rcases List.mem_cons.mp hc with rfl | hc
    · exact Or.inr (by rw [h]; rfl)
    · exact ih hc
  | bar h _ ih =>
    rcases List.mem_cons.mp hc with rfl | hc
    · exact Or.inr (by rw [h]; rfl)
    · exact (List.mem_cons.mp hc).elim Or.inl ih

theorem Barred.exists_cons (h : Barred s ds) :
    ∃ c t d, s = c :: t ∧ decimal? c = some d := by
  cases h with
  | one h => exact ⟨_, _, _, rfl, h⟩
  | cons h => exact ⟨_, _, _, rfl, h⟩
  | bar h => exact ⟨_, _, _, rfl, h⟩

/-! ### What can be read -/

/-- **A text that spells a number**: decimals with underscores between them, not too many, a plus
sign in front of them if one likes, and padding around it all. -/
def Spells (s : List Char) (n : Nat) : Prop :=
  ∃ before sign body after ds, s = before ++ (sign ++ (body ++ after)) ∧
    (∀ c ∈ before ++ after, isPadding c = true) ∧ (sign = [] ∨ sign = ['+']) ∧
    Barred body ds ∧ ds.length ≤ maxDigits ∧ positional ds = n

theorem trimLeft_append (h : ∀ c ∈ s, isPadding c = true) (t : List Char) :
    trimLeft isPadding (s ++ t) = trimLeft isPadding t :=
  List.dropWhile_append_of_pos h

/-- A sign and decimals are not trimmed, and the sign is taken off. -/
theorem unsigned_trimLeft {sign body : List Char} (hsign : sign = [] ∨ sign = ['+'])
    (hbody : Barred body ds) (after : List Char) :
    unsigned (trimLeft isPadding (sign ++ (body ++ after))) = body ++ after := by
  obtain ⟨c, t, d, rfl, hc⟩ := hbody.exists_cons
  rcases hsign with rfl | rfl
  · have hpadding := not_isPadding_of_isDigit (isDigit_of_decimal? hc)
    rw [List.nil_append, List.cons_append, trimLeft,
      List.dropWhile_cons_of_neg (by simp [hpadding])]
    unfold unsigned
    split
    · rename_i heq
      obtain ⟨rfl, -⟩ := List.cons.inj heq
      have hnone : decimal? '+' = none := by decide
      rw [hnone] at hc
      cases hc
    · rfl
  · have hplus : isPadding '+' = false := by decide
    rw [List.singleton_append, trimLeft, List.dropWhile_cons_of_neg (by simp [hplus])]
    rfl

theorem exists_sign (s : List Char) :
    ∃ sign, (sign = [] ∨ sign = ['+']) ∧ s = sign ++ unsigned s := by
  unfold unsigned
  split
  · exact ⟨['+'], Or.inr rfl, rfl⟩
  · exact ⟨[], Or.inl rfl, rfl⟩

/-- **The texts that can be read as numbers.** -/
theorem read_eq_ok_iff : read s = .ok n ↔ Spells s n := by
  constructor
  · intro h
    rw [read] at h
    split at h
    · cases h
    · rename_i ds rest hscan
      split_ifs at h with hlong hrest
      obtain ⟨body, hbody, hbarred⟩ := exists_of_scan_eq_some hscan
      replace hbarred := hbarred.resolve_right fun hfalse => nomatch hfalse.1
      obtain ⟨sign, hsign, htrim⟩ := exists_sign (trimLeft isPadding s)
      refine ⟨s.takeWhile isPadding, sign, body, rest, ds, ?_, ?_, hsign, hbarred, by omega,
        Except.ok.inj h⟩
      · rw [← hbody, ← htrim, trimLeft, List.takeWhile_append_dropWhile]
      · intro c hc
        rcases List.mem_append.mp hc with hc | hc
        · exact List.mem_takeWhile_imp hc
        · rw [trimLeft, List.isEmpty_iff, List.dropWhile_eq_nil_iff] at hrest
          exact hrest c hc
  · rintro ⟨before, sign, body, after, ds, rfl, hpadding, hsign, hbarred, hlength, rfl⟩
    obtain ⟨hbefore, hafter⟩ := List.forall_mem_append.mp hpadding
    have hscan := hbarred.scan_append (.of_isPadding hafter) true
    have hrest : trimLeft isPadding after = [] := List.dropWhile_eq_nil_iff.mpr hafter
    rw [read, trimLeft_append hbefore, unsigned_trimLeft hsign hbarred, hscan]
    simp [hlength, hrest]

/-- The characters of a number. -/
theorem Spells.of_mem (h : Spells s n) (hc : c ∈ s) :
    isPadding c = true ∨ c = '+' ∨ c = '_' ∨ (decimal? c).isSome = true := by
  obtain ⟨before, sign, body, after, ds, rfl, hpadding, hsign, hbarred, -⟩ := h
  obtain ⟨hbefore, hafter⟩ := List.forall_mem_append.mp hpadding
  simp only [List.mem_append] at hc
  rcases hc with hc | hc | hc | hc
  · exact Or.inl (hbefore c hc)
  · rcases hsign with rfl | rfl
    · cases hc
    · exact Or.inr (Or.inl (List.mem_singleton.mp hc))
  · exact Or.inr (Or.inr (hbarred.of_mem hc))
  · exact Or.inl (hafter c hc)

/-! ### Plain numbers -/

/-- **A text that spells a number with decimals only**, not too many. -/
def Plain (s : List Char) (n : Nat) : Prop :=
  ∃ ds, ds ≠ [] ∧ s.map decimal? = ds.map some ∧ ds.length ≤ maxDigits ∧ positional ds = n

theorem Barred.of_map (hne : ds ≠ []) (h : s.map decimal? = ds.map some) : Barred s ds := by
  induction s generalizing ds with
  | nil =>
    have hnil : ds = [] := by simpa using h.symm
    exact absurd hnil hne
  | cons c s ih =>
    obtain ⟨d, ds, rfl⟩ := List.exists_cons_of_ne_nil hne
    obtain ⟨hc, hs⟩ := List.cons.inj h
    cases ds with
    | nil =>
      obtain rfl : s = [] := by simpa using hs
      exact .one hc
    | cons e ds => exact .cons hc (ih (by simp) hs)

/-- Without underscores the decimals are all there is. -/
theorem Barred.map_eq (h : Barred s ds) (hs : '_' ∉ s) : s.map decimal? = ds.map some := by
  induction h with
  | one h => simp [h]
  | cons h _ ih => simp [h, ih fun hmem => hs (List.mem_cons_of_mem _ hmem)]
  | bar => exact absurd (by simp) hs

theorem Barred.ne_nil (h : Barred s ds) : ds ≠ [] := by
  cases h <;> simp

/-- **Plain numbers are those made of digits.** -/
theorem plain_iff : Plain s n ↔ Spells s n ∧ allDigits s = true := by
  rw [allDigits_iff]
  constructor
  · rintro ⟨ds, hne, hmap, hlength, hn⟩
    have hbarred := Barred.of_map hne hmap
    refine ⟨⟨[], [], s, [], ds, by simp, by simp, Or.inl rfl, hbarred, hlength, hn⟩, ?_, ?_⟩
    · obtain ⟨c, t, -, rfl, -⟩ := hbarred.exists_cons
      simp
    · intro c hc
      have hmem : decimal? c ∈ ds.map some := hmap ▸ List.mem_map_of_mem hc
      obtain ⟨d, -, hd⟩ := List.mem_map.mp hmem
      exact isDigit_of_decimal? hd.symm
  · rintro ⟨⟨before, sign, body, after, ds, rfl, hpadding, hsign, hbarred, hlength, hn⟩, -, hdigits⟩
    -- padding and signs are no digits
    have hnone (t : List Char) (ht : ∀ c ∈ t, isPadding c = true)
        (hdigit : ∀ c ∈ t, isDigit c = true) : t = [] := by
      refine List.eq_nil_iff_forall_not_mem.mpr fun c hc => ?_
      have hfalse := not_isPadding_of_isDigit (hdigit c hc)
      rw [ht c hc] at hfalse
      cases hfalse
    simp only [List.forall_mem_append] at hpadding hdigits
    obtain rfl := hnone before hpadding.1 hdigits.1
    obtain rfl := hnone after hpadding.2 hdigits.2.2.2
    obtain rfl : sign = [] := by
      refine hsign.resolve_right ?_
      rintro rfl
      exact absurd (hdigits.2.1 '+' (by simp)) (by decide)
    have hbar : '_' ∉ body := fun hmem => absurd (hdigits.2.2.1 '_' hmem) (by decide)
    exact ⟨ds, hbarred.ne_nil, by simpa using hbarred.map_eq hbar, hlength, hn⟩

/-- What is written in tens is a plain number. -/
theorem plain_toDigits (h : (Nat.toDigits 10 n).length ≤ maxDigits) :
    Plain (Nat.toDigits 10 n) n := by
  refine ⟨(Nat.toDigits 10 n).map fun c => c.toNat - 48, ?_, ?_, by rwa [List.length_map], ?_⟩
  · simp
  · rw [List.map_map]
    exact List.map_congr_left fun c hc =>
      decimal?_of_isDigit (Nat.isDigit_of_mem_toDigits (by omega) (by omega) hc)
  · rw [positional, List.foldl_map]
    exact Nat.ofDigitChars_ten_toDigits

end Numeral

end BuildLine.Text
