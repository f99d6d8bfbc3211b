import BuildLine.Job.Role
import BuildLine.Run.Status

/-!
# Outcomes

What is left of a run: a result for every command that ran, and for each of the two phases where it
stopped and which states it passed through. The publish phase has an outcome of its own, so that a
failure to publish cannot be taken for a failure of the job; only `exitCode` puts the two together.
-/

namespace BuildLine.Run

open Job (State)

/-- What one command of a stage came to. -/
structure StageResult where
  /-- The place of the stage in its phase. -/
  index : Nat
  /-- The name of the stage. -/
  name : String
  /-- The command. -/
  command : String
  /-- The verdict. -/
  status : Status
  /-- The exit code. -/
  exitCode : Int
  /-- What the command printed. -/
  logs : String
  /-- When it began, in milliseconds. -/
  startedAt : Option Int
  /-- When it ended. -/
  finishedAt : Option Int
  deriving DecidableEq, Repr

/-- The command passed. -/
def StageResult.ok (r : StageResult) : Bool :=
  r.status = .passed

/-- What the publish phase came to. -/
structure PublishOutcome where
  /-- Where the phase ended. -/
  state : State := .notRun
  /-- The place of the step that it stopped at. -/
  failedAt : Option Nat := none
  /-- The name of that step. -/
  failedStep : Option String := none
  /-- The exit code of the command that failed. -/
  exitCode : Option Int := none
  /-- The results of the commands. -/
  stepResults : List StageResult := []
  /-- The states that the phase passed through. -/
  states : List State := []
  deriving DecidableEq, Repr

namespace PublishOutcome

/-- Something was published. -/
def published (o : PublishOutcome) : Bool :=
  o.state = .published

/-- A step failed. -/
def failed (o : PublishOutcome) : Bool :=
  o.state = .publishFailed

end PublishOutcome

/-- What a job came to. -/
structure JobOutcome where
  /-- The verdict. -/
  status : Status
  /-- The place of the stage that the job stopped at. -/
  failedAt : Option Nat := none
  /-- The name of that stage. -/
  failedStage : Option String := none
  /-- The exit code of the command that failed. -/
  exitCode : Option Int := none
  /-- The results of the commands of the main phase. -/
  stageResults : List StageResult := []
  /-- What the publish phase came to. -/
  publish : PublishOutcome := {}
  /-- The states that the main phase passed through. -/
  states : List State := []
  deriving DecidableEq, Repr

/-- The names without those that repeat the one before. -/
def withoutRepeats : List String → List String
  | [] => []
  | n :: ns =>
    match withoutRepeats ns with
    | [] => [n]
    | m :: ms => if n = m then m :: ms else n :: m :: ms

namespace JobOutcome

/-- Where the main phase ended. -/
def state (o : JobOutcome) : State :=
  o.states.getLast?.getD .pending

/-- The job passed. -/
def succeeded (o : JobOutcome) : Bool :=
  o.status = .passed

/-- All results in the order in which the commands ran. -/
def results (o : JobOutcome) : List StageResult :=
  o.stageResults ++ o.publish.stepResults

/-- The names of the stages that ran, in order. -/
def executed (o : JobOutcome) : List String :=
  withoutRepeats (o.results.map StageResult.name)

/-- The exit code of a job that failed. -/
def failureCode : Nat := 1

/-- The exit code of a job that could not publish, where that counts. -/
def publishFailureCode : Nat := 2

/-- The exit code of a job that was interrupted. -/
def cancelledCode : Nat := 130

/-- **The exit code that tells of an outcome.** The main phase decides; a failure to publish counts
only if `strict` asks for it. -/
def code (o : JobOutcome) (strict : Bool) : Nat :=
  if o.status = .cancelled then cancelledCode
  else if o.status ≠ .passed then failureCode
  else if o.publish.state = .cancelled then cancelledCode
  else if strict && o.publish.failed then publishFailureCode
  else 0

end JobOutcome

end BuildLine.Run
