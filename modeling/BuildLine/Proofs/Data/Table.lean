import BuildLine.Data.Value
import Mathlib.Data.List.Basic

/-!
# Looking up in a table

A table is a list of pairs, and what stands under a key is what the first pair of that key holds.
Giving a key a value and leaving a key out are described by what is found afterwards: the key itself
is changed, all others are as they were.
-/

namespace BuildLine

/-- A pair in front decides for its own name. -/
theorem lookup_cons_eq_ite (e : String × β) (t : List (String × β)) (k : String) :
    (e :: t).lookup k = if k = e.1 then some e.2 else t.lookup k := by
  rw [List.lookup_cons]
  cases h : k == e.1
  · rw [if_neg (by simpa using h)]
  · rw [if_pos (by simpa using h)]

namespace Data.Table

theorem get?_cons (e : String × Value) (t : Table) (k : String) :
    get? (e :: t) k = if k = e.1 then some e.2 else get? t k :=
  lookup_cons_eq_ite e t k

theorem get?_append (t t' : Table) (k : String) :
    get? (t ++ t') k = (get? t k).or (get? t' k) :=
  List.lookup_append

theorem mem_of_get? {t : Table} {k : String} {v : Value} (h : t.get? k = some v) : (k, v) ∈ t := by
  obtain ⟨before, behind, rfl, -⟩ := List.lookup_eq_some_iff.mp h
  exact List.mem_append_right _ (List.mem_cons_self ..)

theorem get?_eq_none_iff {t : Table} {k : String} : t.get? k = none ↔ k ∉ t.keys := by
  rw [get?, List.lookup_eq_none_iff, keys, List.mem_map, not_exists]
  refine forall_congr' fun e => ?_
  rw [not_and, bne_iff_ne, ne_comm]

/-- What was put under a name stands there, and nothing else has changed. -/
theorem get?_put (key : String) (v : Value) (t : Table) (k : String) :
    (put key v t).get? k = if k = key then some v else t.get? k := by
  induction t with
  | nil => exact get?_cons (key, v) [] k
  | cons e t ih =>
    rw [put]
    split_ifs with he hk hk
    · rw [get?_cons, if_pos hk]
    · rw [get?_cons, if_neg hk, get?_cons, if_neg (he ▸ hk)]
    · subst hk
      rw [get?_cons, if_neg (Ne.symm he), ih, if_pos rfl]
    · rw [get?_cons, get?_cons, ih, if_neg hk]

theorem mem_put {key : String} {v : Value} {t : Table} {e : String × Value} (h : e ∈ put key v t) :
    e = (key, v) ∨ e ∈ t := by
  induction t with
  | nil => exact Or.inl (List.mem_singleton.mp h)
  | cons d t ih =>
    rw [put] at h
    split_ifs at h
    · exact (List.mem_cons.mp h).imp_right (List.mem_cons_of_mem _)
    · rcases List.mem_cons.mp h with rfl | h
      · exact Or.inr (List.mem_cons_self ..)
      · exact (ih h).imp_right (List.mem_cons_of_mem _)

theorem mem_put_self (key : String) (v : Value) (t : Table) : (key, v) ∈ put key v t := by
  induction t with
  | nil => exact List.mem_singleton.mpr rfl
  | cons d t ih =>
    rw [put]
    split_ifs
    · exact List.mem_cons_self ..
    · exact List.mem_cons_of_mem _ ih

/-- Leaving a key out does not touch the others. -/
theorem get?_without_of_ne {t : Table} {key k : String} (h : k ≠ key) :
    (t.without key).get? k = t.get? k := by
  induction t with
  | nil => rfl
  | cons e t ih =>
    rw [without] at ih
    rw [without, List.filter_cons]
    split
    · rw [get?_cons, get?_cons, ih]
    · rename_i he
      have hkey : e.1 = key := by simpa using he
      rw [ih, get?_cons, if_neg (hkey ▸ h)]

theorem mem_keys_without {t : Table} {key k : String} :
    k ∈ (t.without key).keys ↔ k ∈ t.keys ∧ k ≠ key := by
  simp only [keys, without, List.mem_map, List.mem_filter, bne_iff_ne]
  constructor
  · rintro ⟨e, ⟨he, hne⟩, rfl⟩
    exact ⟨⟨e, he, rfl⟩, hne⟩
  · rintro ⟨⟨e, he, rfl⟩, hne⟩
    exact ⟨e, ⟨he, hne⟩, rfl⟩

end Data.Table

end BuildLine
