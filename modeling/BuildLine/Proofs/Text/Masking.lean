import BuildLine.Text.Occurrence
import Mathlib.Data.List.Infix

/-!
# What masking hides

`replaceAll` puts a mask in the place of a text wherever it stands. Two things make it fit for
hiding texts, both for texts that share no character with the mask. It hides the text that it
replaces (`not_infix_replaceAll`), and it never brings about another one (`infix_of_replaceAll`):
such a text stands between two masks or not at all, and what stands between two masks stood there
before. The second is why texts can be hidden one after the other.
-/

namespace BuildLine.Text

/-- A text apart from a mask. -/
def Apart (mask t : List Char) : Prop :=
  mask ≠ [] ∧ ∀ c ∈ mask, c ∉ t

variable {needle mask t s : List Char}

theorem Apart.eq_nil_of_isPrefix (h : Apart mask t) {r : List Char} (ht : t <+: mask ++ r) :
    t = [] := by
  cases t with
  | nil => rfl
  | cons c t =>
    obtain ⟨hne, hmask⟩ := h
    obtain ⟨m, ms, rfl⟩ := List.exists_cons_of_ne_nil hne
    obtain ⟨rfl, -⟩ := List.cons_prefix_cons.mp ht
    exact absurd (List.mem_cons_self ..) (hmask c (List.mem_cons_self ..))

/-- Behind a mask only what follows it can hold the text. -/
theorem Apart.infix_of_append (h : Apart mask t) {r : List Char} (ht : t <:+: mask ++ r) :
    t <:+: r := by
  obtain ⟨p, q, hpq⟩ := ht
  rw [List.append_assoc, List.append_eq_append_iff] at hpq
  rcases hpq with ⟨m, rfl, hm⟩ | ⟨m, rfl, hr⟩
  · -- the text begins inside the mask
    cases t with
    | nil => exact List.nil_infix
    | cons c t =>
      cases m with
      | nil => exact ⟨[], q, by simpa using hm⟩
      | cons d m =>
        obtain ⟨rfl, -⟩ := List.cons.inj hm
        exact absurd (List.mem_cons_self ..) (h.2 c (by simp))
  · exact ⟨m, q, by rw [hr, List.append_assoc]⟩

theorem Apart.tail {c : Char} (h : Apart mask (c :: t)) : Apart mask t :=
  ⟨h.1, fun d hd hdt => h.2 d hd (List.mem_cons_of_mem c hdt)⟩

theorem prefix_of_replaceFrom (h : Apart mask t) (ht : t <+: replaceFrom needle mask 0 s) :
    t <+: s := by
  induction s generalizing t with
  | nil => simpa using ht
  | cons c s ih =>
    rw [replaceFrom] at ht
    split at ht
    · rw [h.eq_nil_of_isPrefix ht]
      exact List.nil_prefix
    · rcases t with - | ⟨d, t⟩
      · exact List.nil_prefix
      · obtain ⟨rfl, hrest⟩ := List.cons_prefix_cons.mp ht
        exact List.cons_prefix_cons.mpr ⟨rfl, ih h.tail hrest⟩

theorem infix_of_replaceFrom (h : Apart mask t) {k : Nat}
    (ht : t <:+: replaceFrom needle mask k s) : t <:+: s := by
  induction s generalizing k with
  | nil => simpa using ht
  | cons c s ih =>
    cases k with
    | succ k => exact List.infix_cons (ih ht)
    | zero =>
      -- the text may begin right here, and what begins it is then carried over unmasked
      have hbegins := @prefix_of_replaceFrom needle mask t (c :: s) h
      rw [replaceFrom] at ht hbegins
      split at ht
      · -- a mask was put here, and the text is not in the mask
        exact List.infix_cons (ih (h.infix_of_append ht))
      · rename_i hc
        rw [if_neg hc] at hbegins
        rcases List.infix_cons_iff.mp ht with ht | ht
        · exact (hbegins ht).isInfix
        · exact List.infix_cons (ih ht)

/-- **Masking brings nothing about**: a text apart from the mask that is there afterwards was there
before. -/
theorem infix_of_replaceAll (h : Apart mask t) (ht : t <:+: replaceAll needle mask s) : t <:+: s :=
  infix_of_replaceFrom h ht

theorem not_infix_replaceFrom (h : Apart mask needle) (hne : needle ≠ []) (k : Nat) :
    ¬ needle <:+: replaceFrom needle mask k s := by
  induction s generalizing k with
  | nil => simpa using hne
  | cons c s ih =>
    cases k with
    | succ k => exact ih k
    | zero =>
      have hbegins := @prefix_of_replaceFrom needle mask needle (c :: s) h
      intro hs
      rw [replaceFrom] at hs hbegins
      split at hs
      · exact ih _ (h.infix_of_append hs)
      · rename_i hc
        rw [if_neg hc] at hbegins
        rcases List.infix_cons_iff.mp hs with hs | hs
        · exact hc (List.isPrefixOf_iff_prefix.mpr (hbegins hs))
        · exact ih 0 hs

/-- **Masking hides**: the text that is replaced is not there afterwards. -/
theorem not_infix_replaceAll (h : Apart mask needle) (hne : needle ≠ []) :
    ¬ needle <:+: replaceAll needle mask s :=
  not_infix_replaceFrom h hne 0

/-! ### Masking from the left -/

/-- What the text begins with is masked, and masking goes on behind it. -/
theorem replaceAll_append_self (hne : needle ≠ []) :
    replaceAll needle mask (needle ++ s) = mask ++ replaceAll needle mask s := by
  obtain ⟨c, needle, rfl⟩ := List.exists_cons_of_ne_nil hne
  have hbegin : (c :: needle).isPrefixOf (c :: (needle ++ s)) = true :=
    List.isPrefixOf_iff_prefix.mpr ⟨s, rfl⟩
  rw [replaceAll, List.cons_append, replaceFrom, if_pos hbegin, replaceFrom_eq_drop]
  simp [replaceAll]

theorem replaceAll_cons_of_not_isPrefix {c : Char} (h : ¬ needle <+: c :: s) :
    replaceAll needle mask (c :: s) = c :: replaceAll needle mask s := by
  rw [replaceAll, replaceFrom, if_neg (mt List.isPrefixOf_iff_prefix.mp h), replaceAll]

/-- Characters that the text does not have are left as they are. -/
theorem replaceAll_append_of_not_mem (hne : needle ≠ []) (h : ∀ c ∈ t, c ∉ needle) :
    replaceAll needle mask (t ++ s) = t ++ replaceAll needle mask s := by
  induction t with
  | nil => rfl
  | cons c t ih =>
    obtain ⟨hc, ht⟩ := List.forall_mem_cons.mp h
    have hbegin : ¬ needle <+: c :: (t ++ s) := by
      intro hbegin
      obtain ⟨d, needle, rfl⟩ := List.exists_cons_of_ne_nil hne
      obtain ⟨rfl, -⟩ := List.cons_prefix_cons.mp hbegin
      exact hc (List.mem_cons_self ..)
    rw [List.cons_append, replaceAll_cons_of_not_isPrefix hbegin, ih ht, List.cons_append]

end BuildLine.Text
