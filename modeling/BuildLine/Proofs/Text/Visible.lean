import BuildLine.Text.Blank
import BuildLine.Text.Quoted
import Mathlib.Data.List.Basic

/-!
# Visible characters

The ASCII characters that can be seen need no care: trimming leaves them alone, and so does quoting,
apart from a backslash before a few of them. Two statements on longer texts rest on this. Behind a
visible character trimming can be done on its own (`trimRight_append_cons`), and two literals that
are the same show the same visible text at the same place (`eq_of_literal_eq`).
-/

namespace BuildLine.Text

/-- An ASCII character that can be seen. -/
def IsVisible (c : Char) : Prop :=
  0x20 < c.toNat ∧ c.toNat < 0x7f

instance (c : Char) : Decidable (IsVisible c) :=
  inferInstanceAs (Decidable (_ ∧ _))

variable {c d : Char} {s t u v : List Char}

theorem IsVisible.isBlank (h : IsVisible c) : isBlank c = false := by
  obtain ⟨hlo, hhi⟩ := h
  rw [Bool.eq_false_iff, Text.isBlank, Ne, CodeRanges.covers_iff]
  simp only [blankRanges, List.mem_cons, List.not_mem_nil, or_false, exists_eq_or_imp,
    exists_eq_left]
  omega

theorem IsVisible.isPrintable (h : IsVisible c) : isPrintable c = true := by
  obtain ⟨hlo, hhi⟩ := h
  have hascii : c.toNat < 128 := by omega
  simp only [Text.isPrintable, hascii, if_true, Bool.and_eq_true, decide_eq_true_eq]
  omega

/-! ### Trimming -/

/-- **Trimming stops at a character that stays.** -/
theorem trimRight_append_cons {p : Char → Bool} (hc : p c = false) :
    trimRight p (s ++ c :: t) = s ++ c :: trimRight p t := by
  have hreverse : (s ++ c :: t).reverse = t.reverse ++ c :: s.reverse := by simp
  rw [trimRight, hreverse, List.dropWhile_append]
  split
  · rename_i hall
    rw [List.isEmpty_iff] at hall
    simp [trimRight, hall, hc]
  · simp [trimRight]

theorem trimLeft_cons_of_visible (h : IsVisible c) : trimLeft isBlank (c :: t) = c :: t :=
  List.dropWhile_cons_of_neg (by simp [h.isBlank])

/-! ### Quoting -/

namespace Quoted

/-- The two quotes. -/
theorem quoteFor_eq (s : List Char) : quoteFor s = '\'' ∨ quoteFor s = '"' := by
  unfold quoteFor
  split
  · exact Or.inr rfl
  · exact Or.inl rfl

theorem encodeBody_append (quote : Char) (s t : List Char) :
    encodeBody quote (s ++ t) = encodeBody quote s ++ encodeBody quote t :=
  List.flatMap_append

theorem encodeBody_cons (quote c : Char) (s : List Char) :
    encodeBody quote (c :: s) = encodeChar quote c ++ encodeBody quote s :=
  List.flatMap_cons

/-- A literal tells its quote and what stands between the quotes. -/
theorem encodeBody_eq_of_literal_eq {a b : String} (h : literal a = literal b) :
    quoteFor a.toList = quoteFor b.toList ∧
      encodeBody (quoteFor a.toList) a.toList = encodeBody (quoteFor a.toList) b.toList := by
  have hencode : encode a.toList = encode b.toList := String.ofList_injective h
  obtain ⟨hquote, hbody⟩ := List.cons.inj hencode
  refine ⟨hquote, ?_⟩
  rw [← hquote] at hbody
  exact List.append_cancel_right hbody

/-- A visible character is written as it is, or with a backslash before it. -/
theorem encodeChar_of_visible (quote : Char) (h : IsVisible c) :
    encodeChar quote c = if c = quote ∨ c = '\\' then ['\\', c] else [c] := by
  have hne {d : Char} (hd : ¬ IsVisible d) : c ≠ d := fun hcd => hd (hcd ▸ h)
  simp only [encodeChar, hne (d := '\n') (by decide), hne (d := '\r') (by decide),
    hne (d := '\t') (by decide), h.isPrintable, if_true, if_false, Bool.or_eq_true,
    decide_eq_true_eq]

/-- What is written for a visible character is told from what follows. -/
theorem encodeChar_append_inj {quote : Char} (hc : IsVisible c) (hd : IsVisible d)
    (h : encodeChar quote c ++ s = encodeChar quote d ++ t) : c = d ∧ s = t := by
  rw [encodeChar_of_visible quote hc, encodeChar_of_visible quote hd] at h
  -- a backslash is escaped itself, so it shows which of the two ways a character is written
  split at h <;> split at h <;>
    simp only [List.cons_append, List.nil_append, List.cons.injEq, true_and] at h
  · exact h
  · rename_i hd
    exact absurd (Or.inr h.1.symm) hd
  · rename_i hc _
    exact absurd (Or.inr h.1) hc
  · exact h

/-- **What is written for visible texts tells them apart.** -/
theorem eq_of_encodeBody_eq {quote : Char} (hu : ∀ c ∈ u, IsVisible c)
    (hv : ∀ c ∈ v, IsVisible c) (h : encodeBody quote u = encodeBody quote v) : u = v := by
  have hwritten {c : Char} (hc : IsVisible c) : encodeChar quote c ≠ [] := by
    rw [encodeChar_of_visible quote hc]
    split <;> nofun
  induction u generalizing v with
  | nil =>
    cases v with
    | nil => rfl
    | cons d v =>
      have hnil := (List.append_eq_nil_iff.mp h.symm).1
      exact absurd hnil (hwritten (hv d (List.mem_cons_self ..)))
  | cons c u ih =>
    obtain ⟨hc, hu'⟩ := List.forall_mem_cons.mp hu
    cases v with
    | nil =>
      have hnil := (List.append_eq_nil_iff.mp h).1
      exact absurd hnil (hwritten hc)
    | cons d v =>
      obtain ⟨hd, hv'⟩ := List.forall_mem_cons.mp hv
      rw [encodeBody_cons, encodeBody_cons] at h
      obtain ⟨rfl, hrest⟩ := encodeChar_append_inj hc hd h
      rw [ih hu' hv' hrest]

/-- Two literals that are the same begin with the same visible character. -/
theorem head_eq_of_literal_eq {a b : String} (ha : a.toList = c :: s) (hb : b.toList = d :: t)
    (hc : IsVisible c) (hd : IsVisible d) (h : literal a = literal b) : c = d := by
  have hbody := (encodeBody_eq_of_literal_eq h).2
  rw [ha, hb, encodeBody_cons, encodeBody_cons] at hbody
  exact (encodeChar_append_inj hc hd hbody).1

/-- Two literals that are the same show the same visible text at the same place. -/
theorem eq_of_literal_eq {a b : String} (hu : ∀ c ∈ u, IsVisible c) (hv : ∀ c ∈ v, IsVisible c)
    (h : literal (a ++ String.ofList (s ++ u ++ t) ++ b) =
      literal (a ++ String.ofList (s ++ v ++ t) ++ b)) : u = v := by
  have hbody := (encodeBody_eq_of_literal_eq h).2
  simp only [String.toList_append, String.toList_ofList, encodeBody_append] at hbody
  have hmiddle := List.append_cancel_left (List.append_cancel_right hbody)
  exact eq_of_encodeBody_eq hu hv (List.append_cancel_left (List.append_cancel_right hmiddle))

end Quoted

end BuildLine.Text
