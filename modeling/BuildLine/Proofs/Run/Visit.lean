import BuildLine.Proofs.Log.Journal
import BuildLine.Run.Job

/-!
# What a phase does

The machine of a phase does four things at once while it goes through its stages: it makes calls, it
tells the journal of them, it keeps their results, and it notes the states it passes through. This
file takes the four apart.

`attempts` is the loop without anything around it: the tasks that are given are tried one after the
other, until one of them stops the loop. A `Visit` is what a phase does at one stage, and `visits`
is what it does at stages in a row. Neither of the two looks at a journal. They need not, since all
that the executor is told of the journal are its secrets, and these stay the same while a run lasts
(`secrets_takeAll`).

The main statement is `runStages_eq`: what the machine tells, keeps and notes are four readings of
one list of visits.
-/

namespace BuildLine.Run

open Data (Table)
open Files Job Log

/-! ### Attempts -/

/-- A call that is to be made for a stage. -/
structure Task where
  /-- The place of the stage in its phase. -/
  index : Nat
  /-- The stage. -/
  stage : Stage
  /-- The call. -/
  call : Call
  deriving Repr

/-- A call that was made for a stage, and what came of it. -/
structure Attempt extends Task where
  /-- What the executor told of it. -/
  notices : List Notice
  /-- What the executor replied. -/
  reply : Reply
  deriving Repr

/-- How a reply stops a phase, if it does. -/
def Reply.stop? : Reply → Option Stop
  | .status s => if verdict s = .passed then none else some (.failed s.exitCode)
  | .cancelled _ => some .cancelled
  | .failed f => some (.broken f)

/-- How attempts stop a phase, if one of them does. -/
def stopOf (as : List Attempt) : Option Stop :=
  as.findSome? fun a => a.reply.stop?

/-- What comes of a task in a state of the executor, and the state it is left in. -/
def Executor.attempt (ex : Executor σ) (secrets : Secrets) (t : Task) (s : σ) : Attempt × σ :=
  let r := ex.run secrets t.call s
  ({ t with notices := r.1, reply := r.2.1 }, r.2.2)

/-- **Try tasks** one after the other, up to the first one that stops the phase. -/
def attempts (ex : Executor σ) (secrets : Secrets) : List Task → σ → List Attempt × σ
  | [], s => ([], s)
  | t :: ts, s =>
    let (a, s) := ex.attempt secrets t s
    match a.reply.stop? with
    | none => ((a :: (attempts ex secrets ts s).1), (attempts ex secrets ts s).2)
    | some _ => ([a], s)

@[simp] theorem stopOf_nil : stopOf [] = none := rfl

theorem stopOf_cons (a : Attempt) (as : List Attempt) :
    stopOf (a :: as) = a.reply.stop?.or (stopOf as) := by
  cases h : a.reply.stop? <;> simp [stopOf, h]

@[simp] theorem Executor.toTask_attempt (ex : Executor σ) (secrets : Secrets) (t : Task) (s : σ) :
    (ex.attempt secrets t s).1.toTask = t := rfl

@[simp] theorem attempts_nil (ex : Executor σ) (secrets : Secrets) (s : σ) :
    attempts ex secrets [] s = ([], s) := rfl

theorem attempts_cons_of_none {ex : Executor σ} {secrets : Secrets} {t : Task} {s : σ}
    (ts : List Task) (h : (ex.attempt secrets t s).1.reply.stop? = none) :
    attempts ex secrets (t :: ts) s =
      ((ex.attempt secrets t s).1 :: (attempts ex secrets ts (ex.attempt secrets t s).2).1,
        (attempts ex secrets ts (ex.attempt secrets t s).2).2) := by
  simp [attempts, h]

theorem attempts_cons_of_some {ex : Executor σ} {secrets : Secrets} {t : Task} {s : σ} {e : Stop}
    (ts : List Task) (h : (ex.attempt secrets t s).1.reply.stop? = some e) :
    attempts ex secrets (t :: ts) s =
      ([(ex.attempt secrets t s).1], (ex.attempt secrets t s).2) := by
  simp [attempts, h]

/-- **Tasks can be tried in portions**: the second portion is tried where the first one is left,
unless something in the first portion stops the phase. -/
theorem attempts_append (ex : Executor σ) (secrets : Secrets) (ts us : List Task) (s : σ) :
    attempts ex secrets (ts ++ us) s =
      if stopOf (attempts ex secrets ts s).1 = none then
        ((attempts ex secrets ts s).1 ++
            (attempts ex secrets us (attempts ex secrets ts s).2).1,
          (attempts ex secrets us (attempts ex secrets ts s).2).2)
      else attempts ex secrets ts s := by
  induction ts generalizing s with
  | nil => simp
  | cons t ts ih =>
    rw [List.cons_append]
    cases h : (ex.attempt secrets t s).1.reply.stop? with
    | none =>
      -- the first task lets the phase go on, so the rest of its portion decides
      rw [attempts_cons_of_none _ h, attempts_cons_of_none _ h, ih]
      simp only [stopOf_cons, h, Option.none_or]
      split <;> rfl
    | some e =>
      rw [attempts_cons_of_some _ h, attempts_cons_of_some _ h, if_neg]
      simp [stopOf_cons, h]

/-! ### Visits -/

/-- The task of running one command of a stage. -/
def taskFor (index : Nat) (stage : Stage) (cwd : Place) (env : Table) (command : String) : Task :=
  { index, stage, call := { command, cwd, env, timeout := stage.timeout } }

/-- The tasks of a stage where the files are given, or why its commands cannot run. -/
def tasksOf (w : Surroundings σ) (tree : Tree) (index : Nat) (stage : Stage) :
    Except Failure (List Task) :=
  match stage.commands tree w.root w.ctx with
  | .error f => .error (.pattern f)
  | .ok commands =>
    match tree.settle (stage.directory w.root) with
    | .error snag => .error (.unsettled snag)
    | .ok cwd => .ok (commands.map (taskFor index stage cwd (stageEnv w stage)))

/-- What is told of a stage before its commands run. -/
def openingOf (w : Surroundings σ) (tree : Tree) (index : Nat) (stage : Stage) : List Event :=
  match stage.commands tree w.root w.ctx with
  | .error _ => []
  | .ok commands =>
    stageNotices w index stage commands ++
      match tree.settle (stage.directory w.root) with
      | .error _ => []
      | .ok _ => credentialNotices w index stage

/-- What a phase does at one stage. -/
structure Visit where
  /-- The place of the stage in its phase. -/
  index : Nat
  /-- The stage. -/
  stage : Stage
  /-- What is told before the commands run. -/
  opening : List Event
  /-- The tasks of the stage, or why its commands cannot run. -/
  tasks : Except Failure (List Task)
  /-- The attempts that are made at these tasks. -/
  attempts : List Attempt

/-- What a phase does at a stage, and the state in which it leaves the executor. -/
def visit (w : Surroundings σ) (secrets : Secrets) (index : Nat) (stage : Stage) (s : σ) :
    Visit × σ :=
  let tree := w.executor.tree s
  let tasks := tasksOf w tree index stage
  let r := attempts w.executor secrets (tasks.toOption.getD []) s
  ({ index, stage, opening := openingOf w tree index stage, tasks, attempts := r.1 }, r.2)

/-- How a visit stops the phase, if it does. -/
def Visit.stop? (v : Visit) : Option Stop :=
  match v.tasks with
  | .error f => some (.broken f)
  | .ok _ => stopOf v.attempts

theorem visit_of_error {w : Surroundings σ} {index : Nat} {stage : Stage} {s : σ} {f : Failure}
    (secrets : Secrets) (h : tasksOf w (w.executor.tree s) index stage = .error f) :
    let r := visit w secrets index stage s
    r.1.attempts = [] ∧ r.2 = s ∧ r.1.stop? = some (.broken f) := by
  simp [visit, Visit.stop?, h, Except.toOption]

theorem visit_of_ok {w : Surroundings σ} {index : Nat} {stage : Stage} {s : σ} {tasks : List Task}
    (secrets : Secrets) (h : tasksOf w (w.executor.tree s) index stage = .ok tasks) :
    let r := visit w secrets index stage s
    let q := attempts w.executor secrets tasks s
    r.1.attempts = q.1 ∧ r.2 = q.2 ∧ r.1.stop? = stopOf q.1 := by
  simp [visit, Visit.stop?, h, Except.toOption]

/-- **Visit stages,** counted from `index`, up to the first one that stops the phase. -/
def visits (w : Surroundings σ) (secrets : Secrets) (index : Nat) :
    List Stage → σ → List Visit × σ
  | [], s => ([], s)
  | stage :: stages, s =>
    let (v, s) := visit w secrets index stage s
    match v.stop? with
    | none =>
      ((v :: (visits w secrets (index + 1) stages s).1),
        (visits w secrets (index + 1) stages s).2)
    | some _ => ([v], s)

/-! ### The four readings -/

/-- What is told of an attempt. -/
def Attempt.told (root : Place) (a : Attempt) : List Notice :=
  .event (stageEvent root a.index a.stage .info "Run" [("command", .text a.call.command)]) ::
    a.notices

/-- The result of an attempt, if the command ran. -/
def Attempt.result? (secrets : Secrets) (a : Attempt) : Option StageResult :=
  match a.reply with
  | .status s => some (resultOf secrets a.index a.stage a.call.command s)
  | .cancelled _ | .failed _ => none

/-- What is told during a visit. -/
def Visit.told (root : Place) (v : Visit) : List Notice :=
  v.opening.map .event ++ v.attempts.flatMap (Attempt.told root)

/-- The results of a visit. -/
def Visit.results (secrets : Secrets) (v : Visit) : List StageResult :=
  v.attempts.filterMap (Attempt.result? secrets)

/-- The states with one more to pass to, unless they end with it. -/
def advanceTo (states : List Job.State) (s : Job.State) : List Job.State :=
  if states.getLast? = some s then states else states ++ [s]

/-- What a phase came to that has made visits. -/
def endingOf (vs : List Visit) : Ending :=
  match vs.findSome? fun v => v.stop?.map fun e => (v, e) with
  | some (v, e) => .stopped v.index v.stage.name e
  | none => .finished

namespace Progress

/-- The progress of a phase after more attempts, where the executor was left in a state. -/
def afterAttempts (p : Progress σ) (root : Place) (secrets : Secrets) (r : List Attempt × σ) :
    Progress σ :=
  { p with
    journal := p.journal.takeAll (r.1.flatMap (Attempt.told root))
    state := r.2
    results := p.results ++ r.1.filterMap (Attempt.result? secrets) }

/-- The progress of a phase after more visits, where the executor was left in a state. -/
def afterVisits (p : Progress σ) (root : Place) (secrets : Secrets) (r : List Visit × σ) :
    Progress σ :=
  { journal := p.journal.takeAll (r.1.flatMap (Visit.told root))
    state := r.2
    results := p.results ++ r.1.flatMap (Visit.results secrets)
    states := r.1.foldl (fun states v => advanceTo states v.stage.role.state) p.states }

variable (p : Progress σ) (root : Place) (secrets : Secrets)

theorem recordAll_eq (es : List Event) :
    p.recordAll es = { p with journal := p.journal.takeAll (es.map .event) } := by
  induction es generalizing p with
  | nil => rfl
  | cons e es ih => exact ih (p.record e)

theorem advance_eq (s : Job.State) : p.advance s = { p with states := advanceTo p.states s } := rfl

@[simp] theorem afterAttempts_nil : p.afterAttempts root secrets ([], p.state) = p := by
  simp [afterAttempts]

theorem afterAttempts_singleton (a : Attempt) (s : σ) :
    p.afterAttempts root secrets ([a], s) =
      { p with
        journal := p.journal.takeAll (a.told root)
        state := s
        results := p.results ++ (a.result? secrets).toList } := by
  cases h : a.result? secrets <;> simp [afterAttempts, h]

theorem afterAttempts_cons (a : Attempt) (s : σ) (r : List Attempt × σ) :
    p.afterAttempts root secrets (a :: r.1, r.2) =
      (p.afterAttempts root secrets ([a], s)).afterAttempts root secrets r := by
  cases h : a.result? secrets <;>
    simp [afterAttempts, Journal.takeAll_append, h]

@[simp] theorem secrets_afterAttempts (r : List Attempt × σ) :
    (p.afterAttempts root secrets r).journal.secrets = p.journal.secrets :=
  Journal.secrets_takeAll _ _

@[simp] theorem state_afterAttempts (r : List Attempt × σ) :
    (p.afterAttempts root secrets r).state = r.2 := rfl

end Progress

/-! ### One stage -/

/-- One turn of the loop over the commands of a stage is an attempt. -/
theorem runCommands_cons (w : Surroundings σ) (index : Nat) (stage : Stage) (cwd : Place)
    (env : Table) {command : String} (commands : List String) {p : Progress σ} {a : Attempt} {s : σ}
    (h : w.executor.attempt p.journal.secrets (taskFor index stage cwd env command) p.state =
      (a, s)) :
    runCommands w index stage cwd env (command :: commands) p =
      match a.reply.stop? with
      | none =>
        runCommands w index stage cwd env commands
          (p.afterAttempts w.root p.journal.secrets ([a], s))
      | some e => (some e, p.afterAttempts w.root p.journal.secrets ([a], s)) := by
  rcases hrun : w.executor.run p.journal.secrets (taskFor index stage cwd env command).call
    p.state with ⟨notices, reply, t⟩
  -- the executor is run after the command was told of, which changes nothing that it looks at
  have hrun' (e : Event) : w.executor.run (p.record e).journal.secrets
      { command, cwd, env, timeout := stage.timeout } (p.record e).state = (notices, reply, t) :=
    hrun
  simp only [Executor.attempt, hrun, Prod.mk.injEq] at h
  obtain ⟨rfl, rfl⟩ := h
  rw [runCommands, Progress.afterAttempts_singleton]
  simp only [hrun', Reply.stop?, Attempt.told, Attempt.result?, taskFor]
  cases reply with
  | status st =>
    by_cases hst : verdict st = .passed <;> simp [hst, Progress.record]
  | cancelled m => simp [Progress.record]
  | failed f => simp [Progress.record]

theorem runCommands_eq (w : Surroundings σ) (index : Nat) (stage : Stage) (cwd : Place)
    (env : Table) (commands : List String) (p : Progress σ) :
    let r := attempts w.executor p.journal.secrets (commands.map (taskFor index stage cwd env))
      p.state
    runCommands w index stage cwd env commands p =
      (stopOf r.1, p.afterAttempts w.root p.journal.secrets r) := by
  induction commands generalizing p with
  | nil => simp [runCommands]
  | cons command commands ih =>
    intro r
    rcases ha : w.executor.attempt p.journal.secrets (taskFor index stage cwd env command)
      p.state with ⟨a, s⟩
    rw [runCommands_cons w index stage cwd env commands ha]
    cases hstop : a.reply.stop? with
    | none =>
      -- the rest is run from the progress that the first attempt has made
      have hr : r = _ := attempts_cons_of_none _ (by rw [ha]; exact hstop)
      simp only [hr, ha]
      rw [ih, p.afterAttempts_cons w.root _ a s]
      simp [stopOf_cons, hstop]
    | some e =>
      have hr : r = _ := attempts_cons_of_some _ (by rw [ha]; exact hstop)
      simp [hr, ha, stopOf_cons, hstop]

/-- **A stage is a visit**: the machine stops as the visit does, and has made progress by it. -/
theorem runStage_eq (w : Surroundings σ) (index : Nat) (stage : Stage) (p : Progress σ) :
    let r := visit w p.journal.secrets index stage p.state
    runStage w index stage p =
      (r.1.stop?,
        { p with
          journal := p.journal.takeAll (r.1.told w.root)
          state := r.2
          results := p.results ++ r.1.results p.journal.secrets }) := by
  intro r
  -- a stage can fail before its commands run in two places, and both are places of a visit, too
  cases hc : stage.commands (w.executor.tree p.state) w.root w.ctx with
  | error f =>
    simp [r, runStage, visit, tasksOf, openingOf, hc, Visit.stop?, Visit.told, Visit.results,
      Except.toOption]
  | ok commands =>
    cases hs : (w.executor.tree p.state).settle (stage.directory w.root) with
    | error snag =>
      simp [r, runStage, visit, tasksOf, openingOf, hc, hs, Visit.stop?, Visit.told, Visit.results,
        Except.toOption, Progress.recordAll_eq]
    | ok cwd =>
      simp [r, runStage, visit, tasksOf, openingOf, hc, hs, Visit.stop?, Visit.told, Visit.results,
        Except.toOption, Progress.recordAll_eq, runCommands_eq, Progress.afterAttempts,
        Journal.takeAll_append]

/-! ### A phase -/

@[simp] theorem visits_nil (w : Surroundings σ) (secrets : Secrets) (index : Nat) (s : σ) :
    visits w secrets index [] s = ([], s) := rfl

theorem visits_cons_of_none {w : Surroundings σ} {secrets : Secrets} {index : Nat} {stage : Stage}
    {s : σ} (stages : List Stage) (h : (visit w secrets index stage s).1.stop? = none) :
    visits w secrets index (stage :: stages) s =
      ((visit w secrets index stage s).1 ::
          (visits w secrets (index + 1) stages (visit w secrets index stage s).2).1,
        (visits w secrets (index + 1) stages (visit w secrets index stage s).2).2) := by
  simp [visits, h]

theorem visits_cons_of_some {w : Surroundings σ} {secrets : Secrets} {index : Nat} {stage : Stage}
    {s : σ} {e : Stop} (stages : List Stage)
    (h : (visit w secrets index stage s).1.stop? = some e) :
    visits w secrets index (stage :: stages) s =
      ([(visit w secrets index stage s).1], (visit w secrets index stage s).2) := by
  simp [visits, h]

theorem endingOf_cons_of_none {v : Visit} (vs : List Visit) (h : v.stop? = none) :
    endingOf (v :: vs) = endingOf vs := by
  simp [endingOf, h]

theorem endingOf_cons_of_some {v : Visit} {e : Stop} (vs : List Visit) (h : v.stop? = some e) :
    endingOf (v :: vs) = .stopped v.index v.stage.name e := by
  simp [endingOf, h]

/-- **A phase is a list of visits**: how it ends, what it tells, the results it keeps and the states
it passes through can all be read off the visits that it makes. -/
theorem runStages_eq (w : Surroundings σ) (index : Nat) (stages : List Stage) (p : Progress σ) :
    let r := visits w p.journal.secrets index stages p.state
    runStages w index stages p = (endingOf r.1, p.afterVisits w.root p.journal.secrets r) := by
  induction stages generalizing index p with
  | nil => simp [runStages, endingOf, Progress.afterVisits]
  | cons stage stages ih =>
    intro r
    rw [runStages, runStage_eq]
    cases hstop : (visit w p.journal.secrets index stage p.state).1.stop? with
    | none =>
      -- the next stages find the same secrets, so the visits there are those of the list
      have hr : r = _ := visits_cons_of_none stages hstop
      simp only [Progress.advance_eq, hstop, ih, Journal.secrets_takeAll, hr,
        endingOf_cons_of_none _ hstop]
      simp [Progress.afterVisits, Journal.takeAll_append, visit]
    | some e =>
      have hr : r = _ := visits_cons_of_some stages hstop
      simp only [Progress.advance_eq, hstop, hr, endingOf_cons_of_some _ hstop]
      simp [Progress.afterVisits, visit]

end BuildLine.Run
