import BuildLine.Job.Search
import BuildLine.Run.Executor
import BuildLine.Run.Outcome

/-!
# Phases

A phase runs stages one after the other, and the commands of a stage one after the other, until one
stops it: a command that does not pass, an interruption, or a breakdown. Everything that a phase
changes is in its `Progress`; what it came to is its `Ending`.

The two phases of a job are the same machine. What sets them apart is which stages they run and
what is made of the ending.
-/

namespace BuildLine.Run

open Data (Value Table)
open Files Job Log

/-- What all stages of a job share. -/
structure Surroundings (σ : Type) where
  /-- What runs the commands. -/
  executor : Executor σ
  /-- The directory of the job. -/
  root : Place
  /-- What the run was told from outside. -/
  ctx : Context
  /-- The variables that all commands share. -/
  env : Table

/-- How far a phase has come. -/
structure Progress (σ : Type) where
  /-- What was told. -/
  journal : Journal
  /-- The state of the executor. -/
  state : σ
  /-- The results of the commands. -/
  results : List StageResult := []
  /-- The states that the phase passed through. -/
  states : List Job.State := []

/-- What stops a phase. -/
inductive Stop where
  /-- A command did not pass. -/
  | failed (exitCode : Int)
  /-- The run was interrupted. -/
  | cancelled
  /-- Something broke down. -/
  | broken (f : Failure)
  deriving Repr

/-- What a phase came to. -/
inductive Ending where
  /-- All commands passed. -/
  | finished
  /-- A stage stopped the phase. -/
  | stopped (index : Nat) (stage : String) (s : Stop)
  deriving Repr

/-- The fields that every event of a run has. -/
def runFields (root : Place) : Table :=
  [("pipe_id", .number (.whole 1)), ("root", .text root.text)]

/-- Something that a run tells. -/
def runEvent (root : Place) (level : Level) (text : String) (fields : Table) : Event :=
  Event.withBound (runFields root) { level, text, fields }

/-- Something that a run tells of a stage. -/
def stageEvent (root : Place) (index : Nat) (s : Stage) (level : Level) (text : String)
    (fields : Table) : Event :=
  runEvent root level text
    (fields ++ [("stage", .text s.name), ("index", .number (.whole index))])

namespace Progress

/-- Tell of an event. -/
def record (p : Progress σ) (e : Event) : Progress σ :=
  { p with journal := p.journal.record e }

/-- Pass to a state, if the phase is not in it already. -/
def advance (p : Progress σ) (s : Job.State) : Progress σ :=
  { p with states := if p.states.getLast? = some s then p.states else p.states ++ [s] }

end Progress

/-- The verdict on a command. -/
def verdict (s : CommandStatus) : Status :=
  if s.timedOut then .timeout else if s.exitCode = 0 then .passed else .failed

/-- The result of a command. -/
def resultOf (secrets : Secrets) (index : Nat) (stage : Stage) (command : String)
    (s : CommandStatus) : StageResult :=
  { index, name := stage.name, command, status := verdict s, exitCode := s.exitCode
    logs := secrets.redact s.logs, startedAt := s.startedAt, finishedAt := s.finishedAt }

/-- Run the commands of a stage. -/
def runCommands (w : Surroundings σ) (index : Nat) (stage : Stage) (cwd : Place) (env : Table) :
    List String → Progress σ → Option Stop × Progress σ
  | [], p => (none, p)
  | command :: commands, p =>
    let p := p.record (stageEvent w.root index stage .info "Run" [("command", .text command)])
    let call : Call := { command, cwd, env, timeout := stage.timeout }
    let (notices, reply, state) := w.executor.run p.journal.secrets call p.state
    let p := { p with journal := p.journal.takeAll notices, state }
    match reply with
    | .cancelled _ => (some .cancelled, p)
    | .failed f => (some (.broken f), p)
    | .status s =>
      let result := resultOf p.journal.secrets index stage command s
      let p := { p with results := p.results ++ [result] }
      if verdict s = .passed then runCommands w index stage cwd env commands p
      else (some (.failed s.exitCode), p)

/-- The credential, if there is one that could be used. -/
def usableCredential (ctx : Context) : Option String :=
  ctx.credential.filter fun c => !c.isEmpty

/-- Put variables over others. -/
def putAll (upper lower : Table) : Table :=
  upper.foldl (fun t e => Table.put e.1 e.2 t) lower

/-- The variables of a stage. -/
def stageEnv (w : Surroundings σ) (s : Stage) : Table :=
  let env := putAll s.env w.env
  match s.secretVar, usableCredential w.ctx with
  | some v, some c => Table.put v (.text c) env
  | _, _ => env

/-- What a run tells of a stage before it runs its commands. -/
def stageNotices (w : Surroundings σ) (index : Nat) (s : Stage) (commands : List String) :
    List Event :=
  match s.pattern? with
  | some pattern =>
    if commands.isEmpty then
      [stageEvent w.root index s .info "No files matched, nothing to run"
        [("pattern", .text pattern)]]
    else []
  | none => []

/-- What a run tells of a stage that is to get a credential that nobody has. -/
def credentialNotices (w : Surroundings σ) (index : Nat) (s : Stage) : List Event :=
  if s.secretVar.isSome && (usableCredential w.ctx).isNone then
    [stageEvent w.root index s .warning "No credential available for stage" []]
  else []

/-- Tell of events in order. -/
def Progress.recordAll (p : Progress σ) (es : List Event) : Progress σ :=
  es.foldl Progress.record p

/-- Run a stage. -/
def runStage (w : Surroundings σ) (index : Nat) (s : Stage) (p : Progress σ) :
    Option Stop × Progress σ :=
  let tree := w.executor.tree p.state
  match s.commands tree w.root w.ctx with
  | .error f => (some (.broken (.pattern f)), p)
  | .ok commands =>
    let p := p.recordAll (stageNotices w index s commands)
    match tree.settle (s.directory w.root) with
    | .error snag => (some (.broken (.unsettled snag)), p)
    | .ok cwd =>
      runCommands w index s cwd (stageEnv w s) commands (p.recordAll (credentialNotices w index s))

/-- **Run stages,** counted from `index`. -/
def runStages (w : Surroundings σ) (index : Nat) : List Stage → Progress σ → Ending × Progress σ
  | [], p => (.finished, p)
  | s :: stages, p =>
    match runStage w index s (p.advance s.role.state) with
    | (none, p) => runStages w (index + 1) stages p
    | (some stop, p) => (.stopped index s.name stop, p)

end BuildLine.Run
