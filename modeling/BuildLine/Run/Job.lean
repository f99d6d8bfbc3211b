import BuildLine.Job.Spec
import BuildLine.Run.Phase

/-!
# Running a job

A run goes through the main phase, which is the installation and the main stages, and if all of it
passed and the rule of the publish block holds, through the publish phase. While it lasts the
credential of the run is a secret of the journal; it is forgotten afterwards, however the run ended.
-/

namespace BuildLine.Run

open Data (Table)
open Files Job Log

/-- A run that is to be made. -/
structure Order (σ : Type) where
  /-- The settings. -/
  settings : Settings := {}
  /-- What runs the commands. -/
  executor : Executor σ
  /-- The directory of the job. -/
  root : Place
  /-- The variables of the process. -/
  environment : Environment := []

/-- A run that was made: what it came to or how it broke down, what was told, and the state in
which it left the executor. -/
structure Made (σ : Type) where
  /-- What the run came to. -/
  outcome : Except Failure JobOutcome
  /-- What was told. -/
  journal : Journal
  /-- The state of the executor. -/
  state : σ

namespace Order

/-- The variables of the process without those that hold the credential, under whatever name. -/
def withoutCredential (o : Order σ) (ctx : Context) : Environment :=
  o.environment.filter fun e =>
    !(e.1 = o.settings.tokenVar || usableCredential ctx = some e.2)

/-- The variables that all commands of a job share. -/
def sharedEnv (o : Order σ) (spec : Spec) (ctx : Context) : Table :=
  putAll spec.env ((o.withoutCredential ctx).map fun e => (e.1, .text e.2))

/-- What the stages of a job share. -/
def surroundings (o : Order σ) (spec : Spec) (ctx : Context) : Surroundings σ :=
  { executor := o.executor, root := o.root, ctx, env := o.sharedEnv spec ctx }

/-- Something that the run tells. -/
def event (o : Order σ) (level : Level) (text : String) (fields : Table) : Event :=
  runEvent o.root level text fields

/-- What a run tells first. -/
def startEvent (o : Order σ) (spec : Spec) (ctx : Context) : Event :=
  o.event .info "Job started"
    [("context", .text ctx.display), ("platform", spec.platform),
     ("toolchain", .text spec.toolchain)]

/-- What a run tells of a phase that a command has failed. The two phases have words of their
own. -/
def failureEvent (o : Order σ) (text field name : String) (exitCode : Int) : Event :=
  o.event .error text [(field, .text name), ("exit_code", .number (.whole exitCode))]

/-! ### The publish phase -/

/-- What the publish phase came to. -/
def publishOutcome (ending : Ending) (results : List StageResult) (states : List Job.State) :
    Except Failure PublishOutcome :=
  let outcome (state : Job.State) : PublishOutcome :=
    { state, stepResults := results, states := states ++ [state] }
  match ending with
  | .finished => .ok (outcome .published)
  | .stopped index step (.failed code) =>
    .ok { outcome .publishFailed with
      failedAt := some index, failedStep := some step, exitCode := some code }
  | .stopped index step .cancelled =>
    .ok { outcome .cancelled with failedAt := some index, failedStep := some step }
  | .stopped _ _ (.broken f) => .error f

/-- What a run tells of the end of the publish phase. -/
def publishClosing (o : Order σ) : Ending → List Event
  | .finished => [o.event .info "Published" []]
  | .stopped _ step (.failed code) => [o.failureEvent "Publish step failed" "step" step code]
  | .stopped _ step .cancelled => [o.event .error "Publish cancelled" [("step", .text step)]]
  | .stopped _ _ (.broken _) => []

/-- What a run tells of a publish phase that is left out. -/
def skipEvent (o : Order σ) (r : PublishRule.Refusal) : Event :=
  o.event .info "Publish skipped" [("reason", .text r.message)]

/-- Run the publish phase. -/
def publish (o : Order σ) (w : Surroundings σ) (block : Option PublishBlock) (journal : Journal)
    (state : σ) : Except Failure PublishOutcome × Progress σ :=
  match block with
  | none => (.ok {}, { journal, state })
  | some block =>
    match block.rule.check w.ctx with
    | .error refusal =>
      let p : Progress σ := { journal, state }
      (.ok { state := .skipped, states := [.checkPredicate, .skipped] },
        p.record (o.skipEvent refusal))
    | .ok () =>
      let (ending, p) := runStages w 0 block.steps { journal, state, states := [.checkPredicate] }
      (publishOutcome ending p.results p.states, p.recordAll (o.publishClosing ending))

/-! ### The whole job -/

/-- What a job came to; `publish` is what its publish phase came to. -/
def jobOutcome (ending : Ending) (results : List StageResult) (states : List Job.State)
    (publish : Except Failure PublishOutcome) : Except Failure JobOutcome :=
  match ending with
  | .finished => publish.map fun publish =>
    { status := .passed, stageResults := results, publish, states := states ++ [.succeeded] }
  | .stopped index stage (.failed code) =>
    .ok {
      status := .failed, failedAt := some index, failedStage := some stage
      exitCode := some code, stageResults := results, states := states ++ [.failed] }
  | .stopped index stage .cancelled =>
    .ok {
      status := .cancelled, failedAt := some index, failedStage := some stage
      stageResults := results, states := states ++ [.cancelled] }
  | .stopped _ _ (.broken f) => .error f

/-- What a run tells of the end of the main phase. -/
def mainClosing (o : Order σ) : Ending → List Event
  | .finished => [o.event .info "Job passed" []]
  | .stopped _ stage (.failed code) => [o.failureEvent "Stage failed" "stage" stage code]
  | .stopped _ stage .cancelled => [o.event .error "Job cancelled" [("stage", .text stage)]]
  | .stopped _ _ (.broken _) => []

/-- Run both phases. The second one runs only if the first one has finished. -/
def runPhases (o : Order σ) (spec : Spec) (ctx : Context) (journal : Journal) (state : σ) :
    Except Failure JobOutcome × Progress σ :=
  let w := o.surroundings spec ctx
  let start : Progress σ := { journal, state, states := [.pending] }
  let (ending, p) := runStages w 0 spec.mainStages (start.record (o.startEvent spec ctx))
  let q := p.recordAll (o.mainClosing ending)
  let (published, q) := match ending with
    | .finished => o.publish w spec.afterSuccess q.journal q.state
    | .stopped .. => (.ok {}, q)
  (jobOutcome ending p.results p.states published, q)

/-- **Make a run.** The journal starts without lines. -/
def run (o : Order σ) (spec : Spec) (ctx : Context) (journal : Journal) (state : σ) : Made σ :=
  let journal := journal.forgetLines.register ctx.credential
  let (outcome, p) := o.runPhases spec ctx journal state
  { outcome, journal := p.journal.forget ctx.credential, state := p.state }

end Order

end BuildLine.Run
