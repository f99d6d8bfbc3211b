import BuildLine.Text.Split
import Mathlib.Data.List.Infix

/-!
# Where a text stands in lines

Lines are put together with a separator between each two. A text stands in what comes of it either
within one line, or it begins in one line and ends in a later one; then it has the separator in it,
and the pieces between its separators are the end of a line, whole lines, and the beginning of a
line (`infix_joinWith_iff`). The device is that lines can be put together in two portions which meet
within a line (`joinWith_append_joinWith`).
-/

namespace BuildLine.Text

variable {sep : Char} {c : List Char} {lines : List (List Char)}

/-- A text begins in a line and ends in a later one. -/
def Straddles (sep : Char) (c : List Char) (lines : List (List Char)) : Prop :=
  ∃ first middle last head tail before behind,
    splitAt sep c = first :: (middle ++ [last]) ∧
      lines = before ++ (head ++ first) :: (middle ++ (last ++ tail) :: behind)

/-- What begins in one line and ends in a later one has the separator in it. -/
theorem Straddles.sep_mem (h : Straddles sep c lines) : sep ∈ c := by
  obtain ⟨first, middle, last, head, tail, before, behind, hc, -⟩ := h
  by_contra hsep
  rw [splitAt_of_not_mem hsep] at hc
  simp at hc

theorem joinWith_cons_cons (sep p q : List Char) (ps : List (List Char)) :
    joinWith sep (p :: q :: ps) = p ++ sep ++ joinWith sep (q :: ps) := rfl

theorem joinWith_concat {ps : List (List Char)} (h : ps ≠ []) (sep p : List Char) :
    joinWith sep (ps ++ [p]) = joinWith sep ps ++ sep ++ p := by
  induction ps with
  | nil => exact absurd rfl h
  | cons q ps ih =>
    cases ps with
    | nil => rfl
    | cons q' ps =>
      rw [List.cons_append, List.cons_append, joinWith_cons_cons, ← List.cons_append,
        ih (by simp), joinWith_cons_cons]
      simp only [List.append_assoc]

/-- A character of lines that are put together stands in one of them or between two. -/
theorem mem_joinWith {sep : List Char} {ps : List (List Char)} {d : Char}
    (h : d ∈ joinWith sep ps) : d ∈ sep ∨ ∃ p ∈ ps, d ∈ p := by
  induction ps with
  | nil => cases h
  | cons p ps ih =>
    cases ps with
    | nil => exact Or.inr ⟨p, List.mem_cons_self .., h⟩
    | cons q ps =>
      rw [joinWith_cons_cons, List.mem_append, List.mem_append] at h
      rcases h with (h | h) | h
      · exact Or.inr ⟨p, List.mem_cons_self .., h⟩
      · exact Or.inl h
      · refine (ih h).imp_right ?_
        rintro ⟨r, hr, hd⟩
        exact ⟨r, List.mem_cons_of_mem _ hr, hd⟩

/-- **Portions that meet within a line.** -/
theorem joinWith_append_joinWith (sep : List Char) (ps : List (List Char)) (p q : List Char)
    (qs : List (List Char)) :
    joinWith sep (ps ++ [p]) ++ joinWith sep (q :: qs) = joinWith sep (ps ++ (p ++ q) :: qs) := by
  induction ps with
  | nil => cases qs <;> simp [joinWith]
  | cons p' ps ih =>
    -- both sides go on behind the first line
    have hcons (r : List Char) (rs : List (List Char)) :
        joinWith sep (p' :: ps ++ r :: rs) = p' ++ sep ++ joinWith sep (ps ++ r :: rs) := by
      cases ps <;> rfl
    rw [hcons, hcons, ← ih, List.append_assoc]

/-- Lines are found again. -/
theorem splitAt_joinWith (hne : lines ≠ []) (h : ∀ l ∈ lines, sep ∉ l) :
    splitAt sep (joinWith [sep] lines) = lines := by
  induction lines with
  | nil => exact absurd rfl hne
  | cons l lines ih =>
    obtain ⟨hl, hlines⟩ := List.forall_mem_cons.mp h
    cases lines with
    | nil => exact splitAt_of_not_mem hl
    | cons k lines =>
      rw [joinWith_cons_cons, List.append_assoc, List.singleton_append, splitAt_append_cons,
        splitAt_of_not_mem hl, ih (by simp) hlines]
      rfl

/-- **The pieces of a text** are those that have no separator and are the text when they are put
together. -/
theorem splitAt_eq_iff (hne : lines ≠ []) :
    splitAt sep c = lines ↔ c = joinWith [sep] lines ∧ ∀ l ∈ lines, sep ∉ l := by
  constructor
  · rintro rfl
    exact ⟨(joinWith_splitAt sep c).symm, fun _ => not_mem_of_mem_splitAt⟩
  · rintro ⟨rfl, h⟩
    exact splitAt_joinWith hne h

theorem exists_splitAt_eq_concat (sep : Char) (s : List Char) :
    ∃ ps p, splitAt sep s = ps ++ [p] :=
  ⟨_, _, (List.dropLast_append_getLast (splitAt_ne_nil sep s)).symm⟩

/-- Where two texts meet, the last piece of the one and the first piece of the other are one. -/
theorem splitAt_append {s t p q : List Char} {ps qs : List (List Char)}
    (hs : splitAt sep s = ps ++ [p]) (ht : splitAt sep t = q :: qs) :
    splitAt sep (s ++ t) = ps ++ (p ++ q) :: qs := by
  have hp (l : List Char) (hl : l ∈ ps ++ [p]) : sep ∉ l := not_mem_of_mem_splitAt (hs ▸ hl)
  have hq (l : List Char) (hl : l ∈ q :: qs) : sep ∉ l := not_mem_of_mem_splitAt (ht ▸ hl)
  rw [← joinWith_splitAt sep s, ← joinWith_splitAt sep t, hs, ht, joinWith_append_joinWith]
  refine splitAt_joinWith (by simp) fun l hl => ?_
  rcases List.mem_append.mp hl with hl | hl
  · exact hp l (List.mem_append_left _ hl)
  · rcases List.mem_cons.mp hl with rfl | hl
    · rw [List.mem_append, not_or]
      exact ⟨hp p (by simp), hq q (List.mem_cons_self ..)⟩
    · exact hq l (List.mem_cons_of_mem _ hl)

/-- A line stands in lines that are put together. -/
theorem infix_joinWith {l : List Char} (h : l ∈ lines) (sep : List Char) :
    l <:+: joinWith sep lines := by
  obtain ⟨before, behind, rfl⟩ := List.append_of_mem h
  refine ⟨joinWith sep (before ++ [[]]), joinWith sep ([] :: behind), ?_⟩
  rw [show l = joinWith sep [l] from rfl, joinWith_append_joinWith, joinWith_append_joinWith]
  simp [joinWith]

/-- What begins in one line and ends in a later one stands in the lines put together. -/
theorem Straddles.infix_joinWith (h : Straddles sep c lines) : c <:+: joinWith [sep] lines := by
  obtain ⟨first, middle, last, head, tail, before, behind, hc, rfl⟩ := h
  refine ⟨joinWith [sep] (before ++ [head]), joinWith [sep] (tail :: behind), ?_⟩
  rw [← joinWith_splitAt sep c, hc, joinWith_append_joinWith, ← List.cons_append,
    ← List.append_assoc, joinWith_append_joinWith]
  simp

/-- **Where a text stands in lines**: within one of them, or over several. -/
theorem infix_joinWith_iff (hc : c ≠ []) (h : ∀ l ∈ lines, sep ∉ l) :
    c <:+: joinWith [sep] lines ↔ (∃ l ∈ lines, c <:+: l) ∨ Straddles sep c lines := by
  constructor
  · rintro ⟨x, y, hxy⟩
    have hne : lines ≠ [] := by
      rintro rfl
      simp_all [joinWith]
    -- what stands before the text and behind it is made of lines, too
    obtain ⟨before, head, hx⟩ := exists_splitAt_eq_concat sep x
    obtain ⟨tail, behind, hy⟩ := List.exists_cons_of_ne_nil (splitAt_ne_nil sep y)
    have hlines : lines = splitAt sep (x ++ c ++ y) := by rw [hxy, splitAt_joinWith hne h]
    obtain ⟨first, pieces, hpieces⟩ := List.exists_cons_of_ne_nil (splitAt_ne_nil sep c)
    have hxc := splitAt_append hx hpieces
    rcases List.eq_nil_or_concat pieces with rfl | ⟨middle, last, rfl⟩
    · rw [splitAt_append hxc hy] at hlines
      have hfirst : c = first := by rw [← joinWith_splitAt sep c, hpieces, joinWith]
      refine Or.inl ⟨head ++ first ++ tail, ?_, head, tail, by rw [hfirst]⟩
      rw [hlines]
      exact List.mem_append_right _ (List.mem_cons_self ..)
    · rw [List.concat_eq_append] at hpieces hxc
      rw [← List.cons_append, ← List.append_assoc] at hxc
      rw [splitAt_append hxc hy] at hlines
      exact Or.inr ⟨first, middle, last, head, tail, before, behind, hpieces, by simpa using hlines⟩
  · rintro (⟨l, hl, hcl⟩ | h)
    · exact hcl.trans (infix_joinWith hl [sep])
    · exact h.infix_joinWith

end BuildLine.Text
