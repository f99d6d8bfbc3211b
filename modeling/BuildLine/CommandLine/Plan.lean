import BuildLine.CommandLine.Row
import BuildLine.Job.Spec

/-!
# Plans

A plan shows the stages of a job in the order in which they run: the platform, the main stages with
their numbers, and, if the job publishes, when it does so and the steps of it.
-/

namespace BuildLine.CommandLine.Plan

open Job

/-- What a stage runs. -/
def detail (s : Stage) : String :=
  match s.pattern? with
  | some p => "for each " ++ p ++ ": " ++ s.run
  | none => s.run

/-- The number of a stage, in two columns. -/
def number (index : Nat) : String :=
  let digits := toString index
  if digits.length < 2 then " " ++ digits else digits

/-- The rows of stages, counted from `index`. -/
def stageRows (index : Nat) : List Stage → List String
  | [] => []
  | s :: stages => row (number index ++ " " ++ s.name) (detail s) :: stageRows (index + 1) stages

/-- When a job publishes. -/
def condition (r : PublishRule) : String :=
  "branch == " ++ r.branch ++ if r.allowPullRequest then "" else " and not a pull request"

/-- **The rows of a plan.** -/
def rows (spec : Spec) : List String :=
  let head := row "Platform" (spec.platform.display ++ " / " ++ spec.toolchain)
  let publish := match spec.afterSuccess with
    | none => []
    | some b => row "After success" (condition b.rule) :: stageRows 0 b.steps
  head :: stageRows 0 spec.mainStages ++ publish

end BuildLine.CommandLine.Plan
