import BuildLine.Proofs.Log.Journal
import Mathlib.Data.List.Basic

/-!
# What a journal keeps

A journal that gets too long drops all its lines but the last `keptLines`, and this may have
happened many times. So the lines of a journal are compared with all that it was told, which nobody
keeps: they are the last ones of these.

How many they are can be said in two ways. `Keeps` says that nothing is missing of the last
`keptLines`; this is what readers of the journal need, and it does not depend on how long a journal
may get. `Holds` gives the number, which grows up to the most that a journal may hold, falls back
and grows again. Both are invariants of telling a line, and there is one induction for all such
invariants (`told_induction`), over everything that may be done with a journal, secrets included.
-/

namespace BuildLine.Log

variable {all lines : List String} {k : Nat}

theorem lastOf_min (k : Nat) (l : List α) : lastOf (min k l.length) l = lastOf k l := by
  have hplace : l.length - min k l.length = l.length - k := by omega
  rw [lastOf, lastOf, hplace]

/-- **What is kept of the lines that were told**: the last ones, and many of them. -/
structure Keeps (all lines : List String) : Prop where
  /-- They are the last ones. -/
  suffix : lines <:+ all
  /-- They are all, or as many as stay when a journal gets too long. -/
  enough : min keptLines all.length ≤ lines.length

namespace Keeps

/-- A line that is told is kept, whether others are dropped for it or not. -/
theorem step (h : Keeps all lines) (s : String) :
    Keeps (all ++ [s]) (Journal.trimmed (lines ++ [s])) := by
  obtain ⟨⟨dropped, rfl⟩, henough⟩ := h
  have hsuffix : lines ++ [s] <:+ dropped ++ lines ++ [s] := by
    rw [List.append_assoc]
    exact List.suffix_append ..
  rw [Journal.trimmed]
  split
  · rename_i hlong
    refine ⟨(List.drop_suffix ..).trans hsuffix, ?_⟩
    rw [Settings.maxLogLines] at hlong
    rw [length_lastOf, keptLines]
    omega
  · refine ⟨hsuffix, ?_⟩
    simp only [List.length_append, List.length_singleton] at henough ⊢
    omega

/-- **Nothing that was dropped is among the last lines.** -/
theorem lastOf_eq (h : Keeps all lines) (hk : k ≤ keptLines) : lastOf k lines = lastOf k all := by
  obtain ⟨⟨dropped, rfl⟩, henough⟩ := h
  rw [List.length_append] at henough
  rw [lastOf, lastOf, List.length_append]
  by_cases hlines : k ≤ lines.length
  · rw [Nat.add_sub_assoc hlines, List.drop_length_add_append]
  · -- fewer lines than are wanted: none was dropped
    obtain rfl : dropped = [] := List.length_eq_zero_iff.mp (by omega)
    rw [List.nil_append, List.length_nil, Nat.zero_add]

end Keeps

/-! ### How many lines are kept -/

/-- The number of lines that a journal holds when it has been told `n`. With the first line that is
too many it falls to the lower bound, and from there on it rises and falls in turns. -/
def held (n : Nat) : Nat :=
  if n ≤ Settings.maxLogLines then n
  else keptLines + (n - (Settings.maxLogLines + 1)) % (Settings.maxLogLines + 1 - keptLines)

theorem held_of_le {n : Nat} (h : n ≤ Settings.maxLogLines) : held n = n :=
  if_pos h

theorem held_of_lt {n : Nat} (h : Settings.maxLogLines < n) :
    held n = keptLines +
      (n - (Settings.maxLogLines + 1)) % (Settings.maxLogLines + 1 - keptLines) :=
  if_neg (Nat.not_le.mpr h)

/-- The number after one more line. -/
theorem held_succ (n : Nat) :
    held (n + 1) = if held n + 1 > Settings.maxLogLines then keptLines else held n + 1 := by
  rcases Nat.lt_trichotomy n Settings.maxLogLines with h | rfl | h
  · rw [held_of_le h, held_of_le (Nat.le_of_lt h), if_neg (by omega)]
  · -- the first line that is too many
    rw [held_of_lt (by omega), held_of_le (Nat.le_refl _), if_pos (by omega), Nat.sub_self,
      Nat.zero_mod, Nat.add_zero]
  · rw [held_of_lt h, held_of_lt (by omega)]
    split
    · rename_i hlong
      simp only [Settings.maxLogLines, keptLines] at h hlong ⊢
      omega
    · rename_i hlong
      simp only [Settings.maxLogLines, keptLines] at h hlong ⊢
      omega

theorem held_le (n : Nat) : held n ≤ Settings.maxLogLines := by
  rcases Nat.lt_or_ge Settings.maxLogLines n with h | h
  · rw [held_of_lt h]
    simp only [Settings.maxLogLines, keptLines]
    omega
  · rwa [held_of_le h]

/-- **What is kept, with its number.** -/
structure Holds (all lines : List String) : Prop extends Keeps all lines where
  /-- The number of lines that are kept. -/
  count : lines.length = held all.length

namespace Holds

theorem step (h : Holds all lines) (s : String) :
    Holds (all ++ [s]) (Journal.trimmed (lines ++ [s])) := by
  refine ⟨h.toKeeps.step s, ?_⟩
  rw [Journal.length_trimmed, List.length_append, List.length_append, List.length_singleton,
    h.count, held_succ]

/-- The number says which lines they are. -/
theorem eq_lastOf (h : Holds all lines) : lines = lastOf (held all.length) all := by
  rw [← h.count, lastOf]
  obtain ⟨dropped, rfl⟩ := h.suffix
  simp

end Holds

namespace Journal

/-! ### What a journal is told -/

/-- The line that a notice adds to the journal. -/
def lineOf (j : Journal) : Notice → Option String
  | .line s => some (j.redact s)
  | .event e => some (j.redact (e.line j.stamp j.redact))
  | .shown _ => none

theorem lines_take (j : Journal) (n : Notice) :
    (j.take n).lines = match j.lineOf n with
      | some s => trimmed (j.lines ++ [s])
      | none => j.lines := by
  cases n <;> rfl

/-- What a notice adds does not depend on what was told before. -/
theorem lineOf_take (j : Journal) (n : Notice) : (j.take n).lineOf = j.lineOf := by
  funext m
  cases n <;> cases m <;> rfl

/-- **What may be done with a journal.** -/
inductive Act where
  /-- It takes a notice. -/
  | tell (n : Notice)
  /-- It is to remember a secret. -/
  | register (value : Option String)
  /-- It is to forget a secret. -/
  | forget (value : Option String)
  /-- It is to forget all secrets. -/
  | forgetSecrets
  deriving Repr

/-- Do something with a journal. -/
def act (j : Journal) : Act → Journal
  | .tell n => j.take n
  | .register value => j.register value
  | .forget value => j.forget value
  | .forgetSecrets => j.forgetSecrets

/-- Do one thing after the other. -/
def actAll (j : Journal) (acts : List Act) : Journal :=
  acts.foldl act j

/-- **The lines that a journal is told**, each of them without the secrets that it has when the line
is told. -/
def told (j : Journal) : List Act → List String
  | [] => []
  | .tell n :: acts => (j.lineOf n).toList ++ told (j.take n) acts
  | a :: acts => told (j.act a) acts

theorem actAll_cons (j : Journal) (a : Act) (acts : List Act) :
    j.actAll (a :: acts) = (j.act a).actAll acts := rfl

/-- **Induction on what a journal is told**: what telling a line preserves is preserved whatever is
done. -/
theorem told_induction {P : List String → List String → Prop}
    (hstep : ∀ {all lines}, P all lines → ∀ s, P (all ++ [s]) (trimmed (lines ++ [s])))
    {j : Journal} (h : P all j.lines) (acts : List Act) :
    P (all ++ j.told acts) (j.actAll acts).lines := by
  induction acts generalizing j all with
  | nil => rwa [told, List.append_nil]
  | cons a acts ih =>
    rw [actAll_cons]
    cases a with
    | tell n =>
      have hlines := lines_take j n
      rw [told, ← List.append_assoc]
      refine ih ?_
      rw [hlines]
      cases j.lineOf n with
      | none => simpa using h
      | some s => exact hstep h s
    | register value => cases value <;> exact ih h
    | forget value => cases value <;> exact ih h
    | forgetSecrets => exact ih h

/-- Notices only: the secrets stay the same. -/
theorem told_map_tell (j : Journal) (ns : List Notice) :
    j.told (ns.map .tell) = ns.filterMap j.lineOf := by
  induction ns generalizing j with
  | nil => rfl
  | cons n ns ih =>
    rw [List.map_cons, told, ih, lineOf_take, List.filterMap_cons]
    cases j.lineOf n <;> rfl

/-- **A journal keeps the last lines,** whatever it takes. -/
theorem keeps_takeAll {j : Journal} (h : Keeps all j.lines) (ns : List Notice) :
    Keeps (all ++ ns.filterMap j.lineOf) (j.takeAll ns).lines := by
  have hacts : j.actAll (ns.map .tell) = j.takeAll ns := List.foldl_map
  rw [← told_map_tell, ← hacts]
  exact told_induction Keeps.step h _

/-- **What a journal holds after all its lines were forgotten**: of all the lines that it was told
since, the last ones, as they were told. Their number is that of all of them as long as it is not
too large, and goes from the lower bound to the upper one and back again from there on. -/
theorem lines_since_forgetLines (j : Journal) (acts : List Act) :
    let told := j.forgetLines.told acts
    let n := told.length
    let m := if n ≤ 1500 then n else 1000 + (n - 1501) % 501
    let lines := (j.forgetLines.actAll acts).lines
    lines = lastOf m told ∧ lines.length = m ∧ lines.length ≤ Settings.maxLogLines ∧
      min n 1000 ≤ lines.length := by
  intro told n m lines
  have hstart : Holds [] j.forgetLines.lines := ⟨⟨List.suffix_rfl, Nat.min_le_right ..⟩, rfl⟩
  have hholds : Holds told lines := told_induction Holds.step hstart acts
  exact ⟨hholds.eq_lastOf, hholds.count, hholds.count ▸ held_le n,
    Nat.min_comm n 1000 ▸ hholds.enough⟩

end Journal

end BuildLine.Log
