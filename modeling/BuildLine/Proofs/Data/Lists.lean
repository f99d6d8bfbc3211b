import Mathlib.Data.List.Forall2
import Mathlib.Data.List.Infix

/-!
# Lists

Facts about lists of whatever elements, which several parts of the theory need and the library does
not have in this form: about related lists, about lists without repetitions, and about where a list
begins and ends in another one.
-/

namespace BuildLine

variable {α β : Type*}

/-! ### Related lists -/

theorem exists_mem_of_forall₂ {R : α → β → Prop} {xs : List α} {ys : List β}
    (h : List.Forall₂ R xs ys) {y : β} (hy : y ∈ ys) : ∃ x ∈ xs, R x y := by
  induction h with
  | nil => cases hy
  | cons hxy _ ih =>
    rcases List.mem_cons.mp hy with rfl | hy
    · exact ⟨_, List.mem_cons_self .., hxy⟩
    · obtain ⟨x, hx, hxy⟩ := ih hy
      exact ⟨x, List.mem_cons_of_mem _ hx, hxy⟩

/-! ### Lists without repetitions -/

/-- A part of a list without repetitions is known by its members. -/
theorem eq_filter_of_sublist {p : α → Bool} {part all : List α} (h : part.Sublist all)
    (hall : all.Nodup) (hmem : ∀ a ∈ all, a ∈ part ↔ p a = true) : part = all.filter p := by
  induction h with
  | slnil => rfl
  | @cons part all a h ih =>
    obtain ⟨ha, hall⟩ := List.nodup_cons.mp hall
    have hpa : p a = false := by
      rw [Bool.eq_false_iff]
      exact fun hpa => ha (h.subset ((hmem a (List.mem_cons_self ..)).mpr hpa))
    rw [List.filter_cons_of_neg (by rw [hpa]; nofun)]
    exact ih hall fun b hb => hmem b (List.mem_cons_of_mem _ hb)
  | @cons_cons part all a h ih =>
    obtain ⟨ha, hall⟩ := List.nodup_cons.mp hall
    rw [List.filter_cons_of_pos ((hmem a (List.mem_cons_self ..)).mp (List.mem_cons_self ..))]
    refine congrArg _ (ih hall fun b hb => ?_)
    have hne : b ≠ a := by
      rintro rfl
      exact ha hb
    rw [← hmem b (List.mem_cons_of_mem _ hb), List.mem_cons, or_iff_right hne]

/-! ### Beginnings and endings -/

variable {l s t u : List α} {a : α} {i : Nat}

theorem eq_of_prefix_of_length_eq (ht : t <+: s) (hu : u <+: s) (h : t.length = u.length) :
    t = u :=
  (List.prefix_of_prefix_length_le ht hu h.le).eq_of_length h

theorem drop_add_length (h : l.drop i = s ++ t) : l.drop (i + s.length) = t := by
  rw [← List.drop_drop, h, List.drop_left]

theorem drop_add_one (h : l.drop i = a :: s) : l.drop (i + 1) = s := by
  rw [← List.drop_drop, h, List.drop_one, List.tail_cons]

/-- An ending without the element ends no earlier than behind it. -/
theorem suffix_append_cons_iff (ha : a ∉ u) : u <:+ s ++ a :: t ↔ u <:+ t := by
  constructor
  · intro h
    rcases List.suffix_or_suffix_of_suffix h (List.suffix_append s (a :: t)) with h | h
    · rcases List.suffix_cons_iff.mp h with rfl | h
      · exact absurd (List.mem_cons_self ..) ha
      · exact h
    · exact absurd (h.subset (List.mem_cons_self ..)) ha
  · intro h
    exact h.trans ((List.suffix_cons a t).trans (List.suffix_append s _))

end BuildLine
