import Mathlib
import BuildLine.Command.Template

/-!
# Templates are filled piece by piece

A template is read from the left, and one may ask whether what stands in front of a placeholder has
a say in what becomes of it, and it in what becomes of the rest. The one thing that has is the
character right in front of it: braces behind a dollar sign belong to the shell. Nothing else does,
since names have no braces in them, so that no placeholder reaches over the opening brace of the
next one (`of_opens_append`).

So there are two equations for `fillFrom`, which say what it does where a placeholder with a value
begins (`fillFrom_placeholder`) and where none does (`fillFrom_cons`), and with them a template can
be cut in front of every opening brace (`fillFrom_append`). A value is put in and not looked at
again: it may have the look of a placeholder itself.
-/

namespace BuildLine.Command.Template

open Text

/-- The names that can stand between the braces of a placeholder. -/
def IsName (n : List Char) : Prop :=
  n ≠ [] ∧ ∀ c ∈ n, isWord c = true

instance (n : List Char) : Decidable (IsName n) :=
  decidable_of_iff ((!n.isEmpty && n.all isWord) = true) (by simp [IsName])

/-- A name between braces. -/
def braced (n : List Char) : List Char :=
  '{' :: n ++ ['}']

/-- A placeholder with a value begins the text, where a dollar sign has or has not just been
read. -/
def Opens (values : Values) (dollar : Bool) (s : List Char) : Prop :=
  dollar = false ∧ ∃ n v rest, IsName n ∧ values n = some v ∧ s = braced n ++ rest

/-- Whether a dollar sign has just been read when a text has been read. -/
def dollarAfter (dollar : Bool) (s : List Char) : Bool :=
  s.getLast?.elim dollar (· = '$')

variable {values : Values} {dollar : Bool} {n s t : List Char} {c : Char}

/-! ### Names and placeholders -/

theorem IsName.opening_not_mem (hn : IsName n) : '{' ∉ n :=
  fun h => absurd (hn.2 _ h) (by decide)

theorem name?_eq_some_iff : name? s = some n ↔ IsName n ∧ ∃ rest, s = n ++ '}' :: rest := by
  constructor
  · intro h
    simp only [name?] at h
    split_ifs at h with hempty
    split at h
    · rename_i rest hrest
      obtain rfl := Option.some.inj h
      refine ⟨⟨by simpa using hempty, fun c hc => List.mem_takeWhile_imp hc⟩, rest, ?_⟩
      rw [← hrest, List.takeWhile_append_dropWhile]
    · cases h
  · rintro ⟨hn, rest, rfl⟩
    have hclosing : isWord '}' = false := by decide
    have hname : (n ++ '}' :: rest).takeWhile isWord = n := by
      rw [List.takeWhile_append_of_pos hn.2, List.takeWhile_cons_of_neg (by simp [hclosing]),
        List.append_nil]
    have hrest : (n ++ '}' :: rest).dropWhile isWord = '}' :: rest := by
      rw [List.dropWhile_append_of_pos hn.2, List.dropWhile_cons_of_neg (by simp [hclosing])]
    simp [name?, hname, hrest, hn.1]

theorem placeholder?_eq_some_iff {w : List Char} {k : Nat} :
    placeholder? values s = some (w, k) ↔
      ∃ n v, IsName n ∧ (∃ rest, s = n ++ '}' :: rest) ∧ values n = some v ∧ w = Word.encode v ∧
        k = n.length + 1 := by
  simp only [placeholder?, Option.bind_eq_bind, Option.bind_eq_some_iff, name?_eq_some_iff,
    Option.pure_def, Option.some.injEq, Prod.mk.injEq]
  constructor
  · rintro ⟨n, ⟨hn, hrest⟩, v, hv, rfl, rfl⟩
    exact ⟨n, v, hn, hrest, hv, rfl, rfl⟩
  · rintro ⟨n, v, hn, hrest, hv, rfl, rfl⟩
    exact ⟨n, ⟨hn, hrest⟩, v, hv, rfl, rfl⟩

/-- **No placeholder reaches over an opening brace**: one that begins before it ends before it. -/
theorem of_opens_append (h : Opens values dollar (c :: (s ++ '{' :: t))) :
    Opens values dollar (c :: s) := by
  obtain ⟨hdollar, n, v, rest, hn, hv, heq⟩ := h
  refine ⟨hdollar, n, v, ?_⟩
  rw [← List.cons_append] at heq
  rcases List.append_eq_append_iff.mp heq with ⟨more, hmore, hrest⟩ | ⟨more, hmore, -⟩
  · cases more with
    | nil => exact ⟨[], hn, hv, by simpa using hmore.symm⟩
    | cons d more =>
      -- the brace would stand behind the first character of the placeholder
      obtain ⟨rfl, -⟩ := List.cons.inj hrest
      have hmem : '{' ∈ n ++ ['}'] := by
        have hmore' : n ++ ['}'] = s ++ '{' :: more := (List.cons.inj hmore).2
        rw [hmore']
        exact List.mem_append_right _ (List.mem_cons_self ..)
      rcases List.mem_append.mp hmem with hmem | hmem
      · exact absurd hmem hn.opening_not_mem
      · exact absurd hmem (by decide)
  · exact ⟨more, hn, hv, hmore⟩

/-! ### Filling -/

/-- Skipping is dropping. -/
theorem fillFrom_succ (k : Nat) (dollar : Bool) (s : List Char) :
    fillFrom values (k + 1) dollar s = fillFrom values 0 false (s.drop (k + 1)) := by
  induction k generalizing dollar s with
  | zero => cases s <;> rfl
  | succ k ih =>
    cases s with
    | nil => rfl
    | cons c s => exact ih false s

/-- **A placeholder with a value becomes the value**, written as one word. -/
theorem fillFrom_braced {v : List Char} (hn : IsName n) (hv : values n = some v) (s : List Char) :
    fillFrom values 0 false (braced n ++ s) = Word.encode v ++ fillFrom values 0 false s := by
  have hplaceholder : placeholder? values (n ++ '}' :: s) = some (Word.encode v, n.length + 1) :=
    placeholder?_eq_some_iff.mpr ⟨n, v, hn, ⟨s, rfl⟩, hv, rfl, rfl⟩
  have hsplit : braced n ++ s = '{' :: (n ++ '}' :: s) := by simp [braced]
  have hdrop : (n ++ '}' :: s).drop (n.length + 1) = s := by simp
  rw [hsplit, fillFrom, if_pos (by decide), hplaceholder]
  simp only
  rw [fillFrom_succ, hdrop]

/-- **Any other character is kept.** -/
theorem fillFrom_cons (h : ¬ Opens values dollar (c :: s)) :
    fillFrom values 0 dollar (c :: s) = c :: fillFrom values 0 (c = '$') s := by
  rw [fillFrom]
  split_ifs with hc
  · rw [Bool.and_eq_true, decide_eq_true_iff, Bool.not_eq_true'] at hc
    obtain ⟨rfl, hdollar⟩ := hc
    cases hplaceholder : placeholder? values s with
    | none => rfl
    | some p =>
      obtain ⟨n, v, hn, ⟨rest, rfl⟩, hv, -⟩ := placeholder?_eq_some_iff.mp hplaceholder
      exact absurd ⟨hdollar, n, v, rest, hn, hv, by simp [braced]⟩ h
  · rfl

theorem dollarAfter_cons : dollarAfter dollar (c :: s) = dollarAfter (c = '$') s := by
  cases s with
  | nil => rfl
  | cons d s =>
    obtain ⟨e, he⟩ := Option.ne_none_iff_exists'.mp
      (mt List.getLast?_eq_none_iff.mp (List.cons_ne_nil d s))
    simp only [dollarAfter, List.getLast?_cons_cons, he, Option.elim_some]

theorem dollarAfter_braced (n s : List Char) :
    dollarAfter dollar (braced n ++ s) = dollarAfter false s := by
  have hsplit : braced n ++ s = '{' :: n ++ '}' :: s := by simp [braced]
  cases hs : s.getLast? <;> simp [dollarAfter, hsplit, List.getLast?_append, List.getLast?_cons, hs]

/-- **A template can be cut in front of an opening brace**, and filled in two portions. -/
theorem fillFrom_append (values : Values) (dollar : Bool) (s t : List Char) :
    fillFrom values 0 dollar (s ++ '{' :: t) =
      fillFrom values 0 dollar s ++ fillFrom values 0 (dollarAfter dollar s) ('{' :: t) := by
  induction hlen : s.length using Nat.strongRecOn generalizing s dollar with
  | _ len ih =>
    cases s with
    | nil => rfl
    | cons c s =>
      by_cases hopens : Opens values dollar (c :: s)
      · obtain ⟨rfl, n, v, rest, hn, hv, heq⟩ := hopens
        have hshorter : rest.length < len := by
          rw [← hlen, heq, List.length_append, braced, List.cons_append, List.length_cons]
          omega
        rw [heq, List.append_assoc, fillFrom_braced hn hv, fillFrom_braced hn hv,
          ih _ hshorter _ _ rfl, dollarAfter_braced, List.append_assoc]
      · have hlonger : ¬ Opens values dollar (c :: (s ++ '{' :: t)) :=
          fun h => hopens (of_opens_append h)
        have hshorter : s.length < len := hlen ▸ Nat.lt_succ_self _
        rw [List.cons_append, fillFrom_cons hlonger, fillFrom_cons hopens, ih _ hshorter _ _ rfl,
          dollarAfter_cons]
        rfl

theorem fillFrom_append_of_not_mem (h : '{' ∉ s) (t : List Char) :
    fillFrom values 0 dollar (s ++ t) = s ++ fillFrom values 0 (dollarAfter dollar s) t := by
  induction s generalizing dollar with
  | nil => rfl
  | cons c s ih =>
    rw [List.mem_cons, not_or] at h
    have hopens : ¬ Opens values dollar (c :: (s ++ t)) := by
      rintro ⟨-, n, v, rest, -, -, heq⟩
      exact h.1 (List.cons.inj heq).1.symm
    rw [List.cons_append, fillFrom_cons hopens, ih h.2, dollarAfter_cons]
    rfl

/-- **A name between braces is kept** if it has no value or the braces belong to the shell. -/
theorem fillFrom_braced_of_not (hn : IsName n) (h : dollar = true ∨ values n = none)
    (s : List Char) :
    fillFrom values 0 dollar (braced n ++ s) = braced n ++ fillFrom values 0 false s := by
  have hsplit : braced n ++ s = '{' :: (n ++ ['}'] ++ s) := by simp [braced]
  have hopens : ¬ Opens values dollar ('{' :: (n ++ ['}'] ++ s)) := by
    rintro ⟨hdollar, m, v, rest, hm, hv, heq⟩
    rw [hdollar] at h
    -- the braces have one name between them
    have hname : name? (n ++ '}' :: s) = some n := name?_eq_some_iff.mpr ⟨hn, s, rfl⟩
    have hname' : name? (n ++ '}' :: s) = some m := by
      refine name?_eq_some_iff.mpr ⟨hm, rest, ?_⟩
      simpa [braced] using heq
    rw [Option.some.inj (hname.symm.trans hname'), hv] at h
    simp at h
  have hclosed : '{' ∉ n ++ ['}'] := by simp [hn.opening_not_mem]
  rw [hsplit, fillFrom_cons hopens, fillFrom_append_of_not_mem hclosed]
  simp [dollarAfter, braced]

theorem dollarAfter_false_iff : dollarAfter false s = true ↔ s.getLast? = some '$' := by
  cases hs : s.getLast? <;> simp [dollarAfter, hs]

/-- What a name between braces becomes behind a text. -/
def filled (values : Values) (before n : List Char) : List Char :=
  match values n with
  | some v => if before.getLast? = some '$' then braced n else Word.encode v
  | none => braced n

theorem fill_parts (values : Values) (hn : IsName n) (a b : List Char) :
    fill values (a ++ braced n ++ b) = fill values a ++ filled values a n ++ fill values b := by
  have hsplit : a ++ braced n ++ b = a ++ '{' :: (n ++ ['}'] ++ b) := by simp [braced]
  have hbraced : '{' :: (n ++ ['}'] ++ b) = braced n ++ b := by simp [braced]
  rw [fill, hsplit, fillFrom_append, hbraced, List.append_assoc]
  refine congrArg (fill values a ++ ·) ?_
  by_cases hdollar : a.getLast? = some '$'
  · have hkept : filled values a n = braced n := by
      cases hv : values n <;> simp [filled, hv, hdollar]
    rw [dollarAfter_false_iff.mpr hdollar, fillFrom_braced_of_not hn (Or.inl rfl), hkept, fill]
  · have hafter : dollarAfter false a = false :=
      Bool.eq_false_iff.mpr fun h => hdollar (dollarAfter_false_iff.mp h)
    rw [hafter]
    cases hv : values n with
    | none => simp only [fillFrom_braced_of_not hn (Or.inr hv), filled, hv, fill]
    | some v => simp only [fillFrom_braced hn hv, filled, hv, if_neg hdollar, fill]

/-- A template without placeholders stays as it is. -/
theorem fillFrom_eq_self (h : ∀ n, IsName n → ¬ braced n <:+: s) :
    fillFrom values 0 dollar s = s := by
  induction s generalizing dollar with
  | nil => rfl
  | cons c s ih =>
    rw [fillFrom_cons, ih fun n hn hoccurs => h n hn (hoccurs.trans (List.suffix_cons c s).isInfix)]
    rintro ⟨-, n, v, rest, hn, -, heq⟩
    exact h n hn ⟨[], rest, heq.symm⟩

/-! ### Rendering -/

/-- A name between braces, as a text. -/
def placeholder (n : String) : String :=
  "\x7b" ++ n ++ "\x7d"

/-- What stands in the command in the place of a name between braces, if `before` is what stands in
the template in front of it. -/
def inPlaceOf (ps : List (String × Option String)) (before n : String) : String :=
  match (ps.lookup n).join with
  | some v =>
    if before.toList.getLast? = some '$' then placeholder n
    else String.ofList (Word.encode v.toList)
  | none => placeholder n

theorem toList_placeholder (n : String) : (placeholder n).toList = braced n.toList := by
  simp [placeholder, braced]

theorem valuesOf_toList (ps : List (String × Option String)) (n : String) :
    valuesOf ps n.toList = (ps.lookup n).join.map String.toList := by
  rw [valuesOf, String.ofList_toList]

theorem toList_inPlaceOf (ps : List (String × Option String)) (before n : String) :
    (inPlaceOf ps before n).toList = filled (valuesOf ps) before.toList n.toList := by
  unfold inPlaceOf filled
  rw [valuesOf_toList]
  cases (ps.lookup n).join with
  | none => exact toList_placeholder n
  | some v =>
    simp only [Option.map_some]
    split_ifs
    · exact toList_placeholder n
    · exact String.toList_ofList

theorem render_append (ps : List (String × Option String)) {n : String} (hn : IsName n.toList)
    (a b : String) :
    render ps (a ++ placeholder n ++ b) = render ps a ++ inPlaceOf ps a n ++ render ps b := by
  rw [← String.toList_inj]
  simp only [render, String.toList_append, String.toList_ofList, toList_placeholder,
    fill_parts _ hn, toList_inPlaceOf]

/-- **A template is rendered part by part**: what stands in front of a name between braces, the name
and what stands behind it do not have anything to do with each other, but for a dollar sign right in
front of the braces. A value is put in as one word whatever it is, and not looked at again. A
template that has no names between braces stays as it is. -/
theorem render_parts (ps : List (String × Option String)) :
    (∀ a n b : String, IsName n.toList →
      render ps (a ++ placeholder n ++ b) =
        render ps a ++ inPlaceOf ps a n ++ render ps b) ∧
      ∀ t : String, (∀ n : String, IsName n.toList → ¬ (placeholder n).toList <:+: t.toList) →
        render ps t = t := by
  refine ⟨fun a n b hn => render_append ps hn a b, fun t ht => ?_⟩
  rw [render, fill, fillFrom_eq_self, String.ofList_toList]
  intro n hn
  have hnone := ht (String.ofList n) (by rwa [String.toList_ofList])
  rwa [toList_placeholder, String.toList_ofList] at hnone

/-- A branch whose name has a quote in it and looks like a placeholder, and braces of the shell. -/
theorem render_parts_quote :
    let ps := [("file", some "a"), ("branch", some "it's \x7bfile\x7d")]
    IsName "branch".toList ∧
      render ps ("echo " ++ placeholder "branch" ++ " $\x7bfile\x7d") =
        "echo 'it'\"'\"'s \x7bfile\x7d' $\x7bfile\x7d" := by
  intro ps
  have hname : IsName "branch".toList := by decide
  refine ⟨hname, ?_⟩
  rw [(render_parts ps).1 "echo " "branch" " $\x7bfile\x7d" hname]
  cbv

end BuildLine.Command.Template
