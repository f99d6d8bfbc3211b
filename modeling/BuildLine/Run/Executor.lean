import BuildLine.Files.Pattern
import BuildLine.Log.Journal

/-!
# Executors

An executor runs commands. It is a machine with states of its own: asked to run a command, it
tells the journal what it likes, gives a reply, and goes to its next state. It is given the secrets
so that it can keep them out of what it hands on. The files that a job sees are part of its state,
since a command may change them.
-/

namespace BuildLine.Run

open Data (Value Table Number)
open Files Log

/-- A command to be run. -/
structure Call where
  /-- The command. -/
  command : String
  /-- The directory in which it runs. -/
  cwd : Place
  /-- Its variables. -/
  env : Table
  /-- The most seconds that it may take. -/
  timeout : Option Number := none
  deriving Repr

/-- What came of a command that ran. -/
structure CommandStatus where
  /-- The exit code. -/
  exitCode : Int
  /-- What the command printed. -/
  logs : String
  /-- When it began, in milliseconds. -/
  startedAt : Option Int := some 0
  /-- When it ended. -/
  finishedAt : Option Int := some 0
  /-- It was stopped because it took too long. -/
  timedOut : Bool := false
  deriving DecidableEq, Repr

/-- Why a run broke down. -/
inductive Failure where
  /-- A stage has a pattern that is none. -/
  | pattern (f : Pattern.Fault)
  /-- The directory of a stage has no place. -/
  | unsettled (s : Tree.Snag)
  /-- The executor was told to fail. -/
  | scripted (message : String)
  /-- A variable is no text. -/
  | notText (got : Value)
  /-- The name of a variable holds an equals sign. -/
  | badName
  /-- There is nothing that could run a command. -/
  | notImplemented
  deriving Repr

/-- The wording of a failure. -/
def Failure.message : Failure → String
  | .pattern f => f.message
  | .unsettled s => s.message
  | .scripted m => m
  | .badName => "illegal environment variable name"
  | .notText v => "expected str, bytes or os.PathLike object, not " ++ v.kind
  | .notImplemented => ""

/-- What an executor replies. -/
inductive Reply where
  /-- The command ran. -/
  | status (s : CommandStatus)
  /-- The run was interrupted. -/
  | cancelled (message : String)
  /-- The executor failed. -/
  | failed (f : Failure)
  deriving Repr

/-- A machine that runs commands. -/
structure Executor (σ : Type) where
  /-- Run a command. -/
  run : Secrets → Call → σ → List Notice × Reply × σ
  /-- The files as they are now. -/
  tree : σ → Tree

namespace Executor

/-- The executor that cannot run anything. -/
def none : Executor Tree where
  run _ _ t := ([], .failed .notImplemented, t)
  tree := id

end Executor

end BuildLine.Run
