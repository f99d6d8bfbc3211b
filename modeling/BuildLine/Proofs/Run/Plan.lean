import BuildLine.Proofs.Run.History
import BuildLine.Run.Script

/-!
# What a phase does where the files stay as they are

An executor that leaves the files alone finds the same commands at every stage, whenever the stage
is reached. So all that a phase is going to try can be written down beforehand: its `plan` are the
tasks of its stages in a row, up to the first stage whose commands cannot run, together with the
ending of a phase that gets through them (`purposes_plan`). What the phase does is to try the tasks
of its plan (`visits_eq_plan`).
-/

namespace BuildLine.Run

open Files Job Log

/-- The executor leaves the files alone. -/
def Executor.Still (ex : Executor σ) : Prop :=
  ∀ secrets call s, ex.tree (ex.run secrets call s).2.2 = ex.tree s

/-- **The plan of a phase**: the tasks of its stages, counted from `index`, and how the phase ends
if all of them pass. -/
def plan (w : Surroundings σ) (tree : Tree) (index : Nat) : List Stage → List Task × Ending
  | [] => ([], .finished)
  | stage :: stages =>
    match tasksOf w tree index stage with
    | .error f => ([], .stopped index stage.name (.broken f))
    | .ok tasks =>
      (tasks ++ (plan w tree (index + 1) stages).1, (plan w tree (index + 1) stages).2)

/-- How an attempt ends a phase, if it does. -/
def Attempt.ending? (a : Attempt) : Option Ending :=
  a.reply.stop?.map (.stopped a.index a.stage.name)

/-- How a phase ends after attempts at its plan, where `rest` is the ending of the plan. -/
def endingAfter (as : List Attempt) (rest : Ending) : Ending :=
  (as.findSome? Attempt.ending?).getD rest

variable {w : Surroundings σ} {ex : Executor σ} {secrets : Secrets}

/-! ### Plans -/

theorem plan_cons_of_error {tree : Tree} {index : Nat} {stage : Stage} {f : Failure}
    (stages : List Stage) (h : tasksOf w tree index stage = .error f) :
    plan w tree index (stage :: stages) = ([], .stopped index stage.name (.broken f)) := by
  simp [plan, h]

theorem plan_cons_of_ok {tree : Tree} {index : Nat} {stage : Stage} {tasks : List Task}
    (stages : List Stage) (h : tasksOf w tree index stage = .ok tasks) :
    plan w tree index (stage :: stages) =
      (tasks ++ (plan w tree (index + 1) stages).1, (plan w tree (index + 1) stages).2) := by
  simp [plan, h]

/-- The commands of a stage can run: there are such, and the directory has a place. -/
def ready (w : Surroundings σ) (tree : Tree) (stage : Stage) : Bool :=
  (stage.commands tree w.root w.ctx).isOk && (tree.settle (stage.directory w.root)).isOk

/-- The commands of a stage where the files are given. -/
def commandsOf (w : Surroundings σ) (tree : Tree) (stage : Stage) : List String :=
  (stage.commands tree w.root w.ctx).toOption.getD []

/-- What a task is for: the place of its stage, the stage and the command. -/
def Task.purpose (t : Task) : Nat × Stage × String :=
  (t.index, t.stage, t.call.command)

/-- What there is to do for stages, counted from `index`: all their commands, stage by stage, up to
the first stage that is not ready. -/
def purposes (w : Surroundings σ) (tree : Tree) (index : Nat) (stages : List Stage) :
    List (Nat × Stage × String) :=
  ((stages.takeWhile (ready w tree)).zipIdx index).flatMap fun p =>
    (commandsOf w tree p.1).map fun command => (p.2, p.1, command)

/-- A stage that is ready has one task for each of its commands. -/
theorem tasksOf_of_ready {tree : Tree} {stage : Stage} (h : ready w tree stage = true)
    (index : Nat) :
    ∃ tasks, tasksOf w tree index stage = .ok tasks ∧
      tasks.map Task.purpose = (commandsOf w tree stage).map fun command =>
        (index, stage, command) := by
  rw [ready, Bool.and_eq_true] at h
  obtain ⟨hcommands, hcwd⟩ := h
  unfold tasksOf commandsOf
  cases hc : stage.commands tree w.root w.ctx with
  | error f =>
    rw [hc] at hcommands
    cases hcommands
  | ok commands =>
    cases hs : tree.settle (stage.directory w.root) with
    | error snag =>
      rw [hs] at hcwd
      cases hcwd
    | ok cwd =>
      refine ⟨_, rfl, ?_⟩
      rw [List.map_map]
      rfl

theorem tasksOf_of_not_ready {tree : Tree} {stage : Stage} (h : ¬ ready w tree stage = true)
    (index : Nat) : ∃ f, tasksOf w tree index stage = .error f := by
  unfold tasksOf
  cases hc : stage.commands tree w.root w.ctx with
  | error f => exact ⟨_, rfl⟩
  | ok commands =>
    cases hs : tree.settle (stage.directory w.root) with
    | error snag => exact ⟨_, rfl⟩
    | ok cwd =>
      rw [ready, hc, hs] at h
      exact absurd (by rfl) h

/-- **A plan has in it all that there is to do,** and it gets through if every stage is ready. -/
theorem purposes_plan (tree : Tree) (index : Nat) (stages : List Stage) :
    (plan w tree index stages).1.map Task.purpose = purposes w tree index stages ∧
      ((plan w tree index stages).2 = .finished ↔ ∀ stage ∈ stages, ready w tree stage = true) := by
  induction stages generalizing index with
  | nil => simp [plan, purposes]
  | cons stage stages ih =>
    by_cases hready : ready w tree stage = true
    · obtain ⟨hrest, hfinished⟩ := ih (index + 1)
      obtain ⟨tasks, htasks, hpurposes⟩ := tasksOf_of_ready hready index
      rw [plan_cons_of_ok stages htasks, purposes, List.takeWhile_cons_of_pos hready,
        List.zipIdx_cons, List.flatMap_cons, List.map_append, hpurposes, hrest,
        List.forall_mem_cons]
      exact ⟨rfl, hfinished.trans (and_iff_right hready).symm⟩
    · obtain ⟨f, htasks⟩ := tasksOf_of_not_ready hready index
      rw [plan_cons_of_error stages htasks, purposes, List.takeWhile_cons_of_neg hready]
      refine ⟨rfl, fun hfinished => ?_, fun hall => ?_⟩
      · cases hfinished
      · exact absurd (hall stage (List.mem_cons_self ..)) hready

/-- The tasks of a stage are tasks of this stage, with its variables. -/
theorem stage_of_mem_tasksOf {tree : Tree} {index : Nat} {stage : Stage} {tasks : List Task}
    (h : tasksOf w tree index stage = .ok tasks) {t : Task} (ht : t ∈ tasks) :
    t.index = index ∧ t.stage = stage ∧ t.call.env = stageEnv w stage := by
  unfold tasksOf at h
  split at h
  · cases h
  · split at h
    · cases h
    · obtain rfl := Except.ok.inj h
      obtain ⟨command, -, rfl⟩ := List.mem_map.mp ht
      exact ⟨rfl, rfl, rfl⟩

/-! ### Attempts -/

theorem toTask_attempts (ts : List Task) (s : σ) :
    (attempts ex secrets ts s).1.map Attempt.toTask <+: ts := by
  induction ts generalizing s with
  | nil => exact List.prefix_rfl
  | cons t ts ih =>
    cases h : (ex.attempt secrets t s).1.reply.stop? with
    | none =>
      rw [attempts_cons_of_none ts h, List.map_cons, Executor.toTask_attempt]
      exact List.cons_prefix_cons.mpr ⟨rfl, ih _⟩
    | some e =>
      rw [attempts_cons_of_some ts h]
      exact List.cons_prefix_cons.mpr ⟨rfl, List.nil_prefix⟩

theorem mem_of_mem_attempts {ts : List Task} {s : σ} {a : Attempt}
    (h : a ∈ (attempts ex secrets ts s).1) : a.toTask ∈ ts :=
  (toTask_attempts ts s).subset (List.mem_map_of_mem h)

theorem Executor.Still.tree_attempts (hstill : ex.Still) (ts : List Task) (s : σ) :
    ex.tree (attempts ex secrets ts s).2 = ex.tree s := by
  induction ts generalizing s with
  | nil => rfl
  | cons t ts ih =>
    have hstep : ex.tree (ex.attempt secrets t s).2 = ex.tree s := hstill secrets t.call s
    cases h : (ex.attempt secrets t s).1.reply.stop? with
    | none => rw [attempts_cons_of_none ts h, ih, hstep]
    | some e => rw [attempts_cons_of_some ts h, hstep]

/-- Attempts at tasks of one stage end the phase at this stage. -/
theorem findSome?_ending {index : Nat} {stage : Stage} {as : List Attempt}
    (h : ∀ a ∈ as, a.index = index ∧ a.stage = stage) :
    as.findSome? Attempt.ending? = (stopOf as).map (.stopped index stage.name) := by
  induction as with
  | nil => rfl
  | cons a as ih =>
    obtain ⟨rfl, rfl⟩ := h a (List.mem_cons_self ..)
    have hrest := ih fun b hb => h b (List.mem_cons_of_mem _ hb)
    cases hstop : a.reply.stop? <;>
      simp [stopOf_cons, Attempt.ending?, hstop, hrest]

/-! ### Phases -/

/-- **A phase tries the tasks of its plan.** -/
theorem visits_eq_plan (hstill : w.executor.Still) (secrets : Secrets) (index : Nat)
    (stages : List Stage) (s : σ) :
    let p := plan w (w.executor.tree s) index stages
    let r := attempts w.executor secrets p.1 s
    let v := visits w secrets index stages s
    v.1.flatMap Visit.attempts = r.1 ∧ v.2 = r.2 ∧ endingOf v.1 = endingAfter r.1 p.2 := by
  induction stages generalizing index s with
  | nil => exact ⟨rfl, rfl, rfl⟩
  | cons stage stages ih =>
    intro p r v
    cases htasks : tasksOf w (w.executor.tree s) index stage with
    | error f =>
      have hp : p = _ := plan_cons_of_error stages htasks
      obtain ⟨hattempts, hleft, hstop⟩ := visit_of_error secrets htasks
      have hv : v = _ := visits_cons_of_some stages hstop
      simp only [r, hp, hv, endingOf_cons_of_some _ hstop]
      exact ⟨by simpa using hattempts, hleft, rfl⟩
    | ok tasks =>
      have hp : p = _ := plan_cons_of_ok stages htasks
      let q := attempts w.executor secrets tasks s
      obtain ⟨hattempts, hleft, hstop⟩ := visit_of_ok secrets htasks
      -- attempts name their own stage, so the ending they give is that of the visit
      have hstage : q.1.findSome? Attempt.ending? =
          (stopOf q.1).map (.stopped index stage.name) := by
        refine findSome?_ending fun a ha => ?_
        obtain ⟨hindex, hstage, -⟩ := stage_of_mem_tasksOf htasks (mem_of_mem_attempts ha)
        exact ⟨hindex, hstage⟩
      have hr : r = attempts w.executor secrets
          (tasks ++ (plan w (w.executor.tree s) (index + 1) stages).1) s := by
        simp only [r, hp]
      rw [attempts_append] at hr
      cases hq : stopOf q.1 with
      | some e =>
        -- the visit stops the phase, and what is left of the plan is not tried
        rw [hq] at hstop hstage
        have hv : v = _ := visits_cons_of_some stages hstop
        rw [if_neg (by simp [q, hq])] at hr
        simp only [hr, hv, endingOf_cons_of_some _ hstop]
        refine ⟨by simpa using hattempts, hleft, ?_⟩
        rw [endingAfter, hstage]
        rfl
      | none =>
        rw [hq] at hstop hstage
        have hv : v = _ := visits_cons_of_none stages hstop
        rw [if_pos hq] at hr
        -- the plan of the next stages is the same after the attempts, since the files are
        obtain ⟨hrest, hend, hending⟩ := ih (index + 1) q.2
        rw [hstill.tree_attempts] at hrest hend hending
        simp only [hr, hv, hp, endingOf_cons_of_none _ hstop, hleft]
        refine ⟨by simp [hattempts, hrest, q], hend, ?_⟩
        rw [hending, endingAfter, endingAfter, List.findSome?_append, hstage]
        rfl

end BuildLine.Run
