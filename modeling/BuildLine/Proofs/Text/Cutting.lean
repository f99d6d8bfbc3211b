import BuildLine.Text.Split
import Mathlib.Data.List.TakeWhile

/-!
# Cutting at one character

The functions that cut a text at one occurrence of a character have a law each for a text in which
the place of the occurrence is known: what stands on the other side of it makes no difference. And
a cut is undone by writing the character between the two parts.
-/

namespace BuildLine.Text

variable {p : Char → Bool} {s t : List Char} {c : Char}

theorem takeWhile_append_cons (hs : ∀ d ∈ s, p d = true) (hc : p c = false) :
    (s ++ c :: t).takeWhile p = s := by
  rw [List.takeWhile_append_of_pos hs, List.takeWhile_cons_of_neg (by simp [hc]), List.append_nil]

theorem dropWhile_append_cons (hs : ∀ d ∈ s, p d = true) (hc : p c = false) :
    (s ++ c :: t).dropWhile p = c :: t := by
  rw [List.dropWhile_append_of_pos hs, List.dropWhile_cons_of_neg (by simp [hc])]

theorem cutFirst?_append_cons (hs : c ∉ s) : cutFirst? c (s ++ c :: t) = some (s, t) := by
  have hne : ∀ d ∈ s, (d != c) = true := fun d hd => bne_iff_ne.mpr fun h => hs (h ▸ hd)
  rw [cutFirst?, dropWhile_append_cons hne (by simp), takeWhile_append_cons hne (by simp)]

theorem eq_of_cutFirst?_eq_some {a b : List Char} (h : cutFirst? c s = some (a, b)) :
    s = a ++ c :: b := by
  have hjoin := s.takeWhile_append_dropWhile (p := (· != c))
  rw [cutFirst?] at h
  split at h
  · cases h
  · rename_i d rest hdrop
    obtain ⟨rfl, rfl⟩ := Prod.mk.inj (Option.some.inj h)
    -- the first character that is not skipped is the one that was looked for
    have hd : d = c := by simpa [hdrop] using s.head?_dropWhile_not (· != c)
    rw [hdrop, hd] at hjoin
    exact hjoin.symm

theorem cutFirst?_of_not_mem (h : c ∉ s) : cutFirst? c s = none := by
  cases hcut : cutFirst? c s with
  | none => rfl
  | some found => exact absurd (eq_of_cutFirst?_eq_some hcut ▸ by simp) h

theorem eq_of_cutLast?_eq_some {a b : List Char} (h : cutLast? c s = some (a, b)) :
    s = a ++ c :: b := by
  rw [cutLast?, Option.map_eq_some_iff] at h
  obtain ⟨⟨x, y⟩, hcut, hab⟩ := h
  obtain ⟨rfl, rfl⟩ := Prod.mk.inj hab
  rw [← s.reverse_reverse, eq_of_cutFirst?_eq_some hcut]
  simp

theorem afterLast_of_not_mem (h : c ∉ s) : afterLast c s = s := by
  have hall : s.reverse.takeWhile (· != c) = s.reverse :=
    List.takeWhile_eq_self_iff.mpr fun d hd =>
      bne_iff_ne.mpr fun hdc => h (hdc ▸ List.mem_reverse.mp hd)
  rw [afterLast, hall, List.reverse_reverse]

/-- What stands in front of an occurrence makes no difference for what stands behind the last. -/
theorem afterLast_append_cons (s t : List Char) : afterLast c (s ++ c :: t) = afterLast c t := by
  have hreverse : (s ++ c :: t).reverse = t.reverse ++ c :: s.reverse := by simp
  rw [afterLast, hreverse, List.takeWhile_append, afterLast]
  split
  · rename_i hall
    rw [List.takeWhile_cons_of_neg (by simp), List.append_nil,
      (List.takeWhile_prefix _).eq_of_length hall]
  · rfl

theorem not_mem_afterLast (c : Char) (s : List Char) : c ∉ afterLast c s := by
  rw [afterLast, List.mem_reverse]
  intro h
  simpa using List.mem_takeWhile_imp h

theorem exists_eq_append_afterLast (h : c ∈ s) : ∃ a, s = a ++ c :: afterLast c s := by
  obtain ⟨b, a, hreverse, hb⟩ := List.eq_append_cons_of_mem (List.mem_reverse.mpr h)
  obtain rfl : s = a.reverse ++ c :: b.reverse := by
    rw [← s.reverse_reverse, hreverse]
    simp
  refine ⟨a.reverse, ?_⟩
  rw [afterLast_append_cons, afterLast_of_not_mem (mt List.mem_reverse.mp hb)]

end BuildLine.Text
