import BuildLine.Command.Template
import BuildLine.Job.Context
import BuildLine.Job.Role

/-!
# Stages

A stage is a named piece of work with a role. It runs one command, or the same command once for
every file that a pattern finds. Only a stage of the first kind can be given the credential.
-/

namespace BuildLine.Job

open Data (Table Number)
open Command

/-- What a stage runs. -/
inductive Work where
  /-- One command, which is given the credential under the variable named, if one is. -/
  | once (secretVar : Option String)
  /-- The command once for every file that the pattern finds. -/
  | forEach (pattern : String)
  deriving DecidableEq, Repr

/-- A named piece of work. -/
structure Stage where
  /-- The name. -/
  name : String
  /-- The template of the command. -/
  run : String
  /-- What the stage is for. -/
  role : Role
  /-- The directory in which the commands run, from the root of the job. -/
  cwd : Option String := none
  /-- The most seconds that a command may take. -/
  timeout : Option Number := none
  /-- Variables for the commands of this stage. -/
  env : Table := []
  /-- What the stage runs. -/
  work : Work := .once none
  deriving Repr

namespace Stage

/-- The variable under which the stage is given the credential. -/
def secretVar (s : Stage) : Option String :=
  match s.work with
  | .once v => v
  | .forEach _ => none

/-- The pattern of a stage that runs for every file. -/
def pattern? (s : Stage) : Option String :=
  match s.work with
  | .once _ => none
  | .forEach p => some p

/-- The command of a stage that runs once. -/
def command (s : Stage) (ctx : Context) : String :=
  Template.render ctx.placeholders s.run

/-- The command for one file. -/
def commandFor (s : Stage) (ctx : Context) (file : String) : String :=
  Template.render (("file", some file) :: ctx.placeholders) s.run

end Stage

/-- When a job publishes. -/
structure PublishRule where
  /-- The branch that publishes. -/
  branch : String
  /-- Builds for pull requests publish too. -/
  allowPullRequest : Bool := false
  deriving DecidableEq, Repr

namespace PublishRule

/-- Why a run does not publish. -/
inductive Refusal where
  /-- It is for another branch. -/
  | otherBranch (branch wanted : String)
  /-- It is for a pull request. -/
  | pullRequest
  deriving DecidableEq, Repr

/-- The wording of a refusal. -/
def Refusal.message : Refusal → String
  | .otherBranch b w => "Branch " ++ Text.Quoted.literal b ++ " is not " ++ Text.Quoted.literal w
  | .pullRequest => "Pull request builds do not publish"

/-- The run publishes. -/
def holds (r : PublishRule) (ctx : Context) : Bool :=
  ctx.branch == r.branch && (r.allowPullRequest || !ctx.isPullRequest)

/-- Refuse to publish a run for which the rule does not hold. -/
def check (r : PublishRule) (ctx : Context) : Except Refusal Unit :=
  if r.holds ctx then .ok ()
  else if ctx.branch ≠ r.branch then .error (.otherBranch ctx.branch r.branch)
  else .error .pullRequest

end PublishRule

/-- What a job does after it has succeeded, and when. -/
structure PublishBlock where
  /-- When. -/
  rule : PublishRule
  /-- The steps in order. -/
  steps : List Stage
  deriving Repr

end BuildLine.Job
