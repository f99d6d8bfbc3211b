import BuildLine.Run.Job
import BuildLine.Proofs.Data.Table

/-!
# The variables of a command

The variables of a command are put together in layers: those of the process without the credential,
those of the job, those of the stage, and at last the credential under the name that the stage asks
for. A table of variables is looked at in two ways, by what stands under a name and by what stands
in it at all, and each layer is described in both.
-/

namespace BuildLine

namespace Run

open Data (Value Table)
open Job

/-- Variables that are put over others decide first, the last one of a name before the others. -/
theorem get?_putAll (upper lower : Table) (k : String) :
    (putAll upper lower).get? k = (Table.get? upper.reverse k).or (lower.get? k) := by
  induction upper generalizing lower with
  | nil => rfl
  | cons e upper ih =>
    have hstep : putAll (e :: upper) lower = putAll upper (Table.put e.1 e.2 lower) := rfl
    -- what is put first is put over by the rest, and so stands last in the reversed table
    rw [hstep, ih, Table.get?_put, List.reverse_cons, Table.get?_append, Option.or_assoc,
      Table.get?_cons]
    split_ifs <;> rfl

theorem mem_putAll {upper lower : Table} {e : String × Value} (h : e ∈ putAll upper lower) :
    e ∈ upper ∨ e ∈ lower := by
  induction upper generalizing lower with
  | nil => exact Or.inr h
  | cons d upper ih =>
    have hstep : putAll (d :: upper) lower = putAll upper (Table.put d.1 d.2 lower) := rfl
    rw [hstep] at h
    rcases ih h with h | h
    · exact Or.inl (List.mem_cons_of_mem _ h)
    · rcases Table.mem_put h with rfl | h
      · exact Or.inl (List.mem_cons_self ..)
      · exact Or.inr h

/-- What stands under a name for the commands of a stage: the credential if the stage asks for it
under this name, else what the stage says, else what all commands share. -/
theorem get?_stageEnv (w : Surroundings σ) (s : Stage) (k : String) :
    (stageEnv w s).get? k =
      if s.secretVar = some k ∧ (usableCredential w.ctx).isSome then
        (usableCredential w.ctx).map .text
      else (Table.get? s.env.reverse k).or (w.env.get? k) := by
  rw [← get?_putAll, stageEnv]
  cases s.secretVar with
  | none => simp
  | some v =>
    cases usableCredential w.ctx with
    | none => simp
    | some c =>
      simp only [Table.get?_put, Option.some.injEq, Option.isSome_some, and_true,
        Option.map_some, eq_comm]

theorem usableCredential_eq {ctx : Context} {c : String} (hc : ctx.credential = some c)
    (hne : c ≠ "") : usableCredential ctx = some c := by
  simp [usableCredential, hc, hne]

theorem mem_stageEnv {w : Surroundings σ} {s : Stage} {e : String × Value}
    (h : e ∈ stageEnv w s) :
    (∃ v c, s.secretVar = some v ∧ usableCredential w.ctx = some c ∧ e = (v, .text c)) ∨
      e ∈ s.env ∨ e ∈ w.env := by
  unfold stageEnv at h
  split at h
  · rename_i v c hv hc
    rcases Table.mem_put h with rfl | h
    · exact Or.inl ⟨v, c, hv, hc, rfl⟩
    · exact Or.inr (mem_putAll h)
  · exact Or.inr (mem_putAll h)

/-- The variables that all commands share are those of the job, and those of the process without
the credential. -/
theorem mem_sharedEnv {o : Order σ} {spec : Spec} {ctx : Context} {e : String × Value}
    (h : e ∈ o.sharedEnv spec ctx) :
    e ∈ spec.env ∨
      ∃ name text, (name, text) ∈ o.withoutCredential ctx ∧ e = (name, .text text) := by
  rcases mem_putAll h with h | h
  · exact Or.inl h
  · obtain ⟨⟨name, text⟩, hmem, rfl⟩ := List.mem_map.mp h
    exact Or.inr ⟨name, text, hmem, rfl⟩

theorem get?_sharedEnv (o : Order σ) (spec : Spec) (ctx : Context) (k : String) :
    (o.sharedEnv spec ctx).get? k =
      (Table.get? spec.env.reverse k).or (((o.withoutCredential ctx).get? k).map .text) := by
  have hmap (env : Environment) :
      Table.get? (env.map fun e => (e.1, Value.text e.2)) k = (env.get? k).map .text := by
    induction env with
    | nil => rfl
    | cons e env ih =>
      rw [List.map_cons, Table.get?_cons, ih, Environment.get?, Environment.get?, List.lookup_cons]
      cases h : k == e.1
      · rw [if_neg (by simpa using h)]
      · rw [if_pos (by simpa using h)]
        rfl
  rw [Order.sharedEnv, get?_putAll, hmap]

end Run

end BuildLine
