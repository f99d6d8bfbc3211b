import BuildLine.CommandLine.Help
import BuildLine.CommandLine.Plan
import BuildLine.CommandLine.Surroundings
import BuildLine.Job.Load
import BuildLine.Run.Job
import BuildLine.Run.Local
import BuildLine.Run.Report
import BuildLine.Run.Script
import BuildLine.Version

/-!
# The program

What the program does when it is called: it reads the words of the command line, the manifest and
the context, shows the plan of the job or runs it, and ends with an exit code. A manifest that is
wrong is complained about in one line; anything else that goes wrong breaks the program down.
-/

namespace BuildLine.CommandLine

open Files Job Log Run

/-- What the program finds when it is called. -/
structure Host where
  /-- The name by which it is called. -/
  program : String := Report.programName
  /-- The settings. -/
  settings : Settings := {}
  /-- The files. -/
  tree : Tree
  /-- The directory. -/
  here : Place
  /-- The variables. -/
  environment : Environment := []
  /-- What the checkout answers. -/
  answers : Source.Checkout.Answers := { remote := none, branch := none }

/-- What breaks the program down. -/
inductive Breakdown where
  /-- The manifest cannot be read. -/
  | load (f : Manifest.LoadFault)
  /-- The remote names no repository. -/
  | remote (f : Source.Remote.Fault)
  /-- The root of the job is a link that leads back to itself, or the run has failed. -/
  | run (f : Run.Failure)
  deriving Repr

/-- The wording of a breakdown. -/
def Breakdown.message : Breakdown → String
  | .load f => f.message
  | .remote f => f.message
  | .run f => f.message

/-- What is left of a call of the program. -/
structure Finished where
  /-- What was printed, line by line. -/
  lines : List String
  /-- The exit code. -/
  exitCode : Nat
  /-- What broke the program down. -/
  breakdown : Option Breakdown := none
  /-- The files. -/
  tree : Tree

namespace Finished

/-- What was printed. -/
def output (f : Finished) : String :=
  String.join (f.lines.map (· ++ "\n"))

end Finished

namespace Host

/-- The program has printed lines and ends. -/
def ended (h : Host) (lines : List String) (exitCode : Nat) : Finished :=
  { lines, exitCode, tree := h.tree }

/-- The program has printed lines and breaks down. -/
def brokenDown (h : Host) (lines : List String) (b : Breakdown) : Finished :=
  { lines, exitCode := 1, breakdown := some b, tree := h.tree }

/-- What becomes of a manifest that gives no specification. -/
def refuseManifest (h : Host) (f : Manifest.LoadFault) : Finished :=
  match f with
  | .manifest g =>
    if g.isComplaint then h.ended ["Error: " ++ g.message] 1 else h.brokenDown [] (.load f)
  | f => h.brokenDown [] (.load f)

/-- The specification of the job. -/
def specification (h : Host) (target : Target) : Except Manifest.LoadFault Spec :=
  Manifest.choose h.settings h.tree h.here target.manifest target.root

/-- A run that is to be made with an executor. -/
def order (h : Host) (root : Place) (executor : Executor σ) : Order σ :=
  { settings := h.settings, executor, root, environment := h.environment }

/-- What is left of a run that was made. -/
def finish (h : Host) (options : RunOptions) (spec : Spec) (tree : Tree) (m : Made σ) : Finished :=
  let h := { h with tree }
  match m.outcome with
  | .error f => h.brokenDown m.journal.screen (.run f)
  | .ok o =>
    let report := Report.render Report.defaultTail 0 m.journal.lines spec o
    h.ended (m.journal.screen ++ [report]) (o.code options.strictPublish)

/-- Run a job. -/
def runJob (h : Host) (target : Target) (options : RunOptions) (spec : Spec) : Finished :=
  let (ctx, journal) := context h.settings h.answers h.environment options.flags {}
  match ctx with
  | .error f => h.brokenDown journal.screen (.remote f)
  | .ok ctx =>
    match h.tree.settle ((Files.Written.ofText target.root).fromRoot h.here) with
    | .error snag => h.brokenDown journal.screen (.run (.unsettled snag))
    | .ok root =>
      if options.dryRun then
        let m := (h.order root (Script.executor {})).run spec ctx journal { tree := h.tree }
        h.finish options spec m.state.tree m
      else
        let m := (h.order root (Local.executor {})).run spec ctx journal { tree := h.tree }
        h.finish options spec m.state.tree m

/-- The line that tells the version. -/
def versionLine : String :=
  Report.programName ++ ", version " ++ Version.current.text

/-- **Call the program** with the words of the command line. -/
def call (h : Host) (words : List String) : Finished :=
  match Request.read h.tree h.here words with
  | .error (c, r) => h.ended (Help.refusal h.program c r) 2
  | .ok .version => h.ended [versionLine] 0
  | .ok (.help c) => h.ended (Help.lines h.program c) 0
  | .ok (.plan target) =>
    match h.specification target with
    | .error f => h.refuseManifest f
    | .ok spec => h.ended (Plan.rows spec) 0
  | .ok (.run target options) =>
    match h.specification target with
    | .error f => h.refuseManifest f
    | .ok spec => h.runJob target options spec

end Host

end BuildLine.CommandLine
