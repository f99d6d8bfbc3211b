import BuildLine.Job.Spec
import BuildLine.Log.Journal
import BuildLine.Run.Outcome

/-!
# Reports

The report on a run: a box for each phase with a line for every stage. A line shows the verdict on
the stage, its name, the number of its commands if it runs for every file, how long it took, and the
exit code if it failed. If something went wrong the last lines of the journal follow.

The report does not see the run itself. It takes the verdict on a stage from the last result of the
stage; a stage without results has passed if the phase has gone beyond it, since then there was
nothing for it to do.
-/

namespace BuildLine.Run.Report

open Job Log

/-! ### One stage -/

/-- The verdict on the stage at `index`, given the verdicts on its commands. The phase has run to
its end if `finished`, and has stopped at `failedAt` otherwise. -/
def stageStatus (index : Nat) (results : List Status) (failedAt : Option Nat) (finished : Bool) :
    Status :=
  match results.getLast? with
  | some s => s
  | none =>
    if finished || failedAt.any fun f => index < f then .passed else .skipped

/-- How long the commands of a stage took, in whole seconds; what was not finished ends now. -/
def seconds (now : Int) (results : List StageResult) : Option Int :=
  match results.head?, results.getLast? with
  | some a, some b =>
    match a.startedAt, b.finishedAt with
    | some s, some f => some ((f - s).tdiv 1000)
    | some s, none => some ((now - s).tdiv 1000)
    | none, _ => some 0
  | _, _ => none

/-- The text with spaces in front of it up to a width. -/
def padLeft (width : Nat) (s : String) : String :=
  String.ofList (List.replicate (width - s.length) ' ') ++ s

/-- Minutes and seconds. -/
def timing : Option Int → String
  | none => " --:--"
  | some s => padLeft 3 (toString (s.fdiv 60)) ++ ":" ++ padLeft 2 (toString (s.fmod 60))

/-- The text cut or padded to a width. -/
def fit (width : Nat) (s : String) : String :=
  String.ofList ((Event.pad width s).toList.take width)

/-- What a line says of a stage that failed. -/
def exitNote (status : Status) (results : List StageResult) : String :=
  match results.getLast? with
  | some r =>
    if status = .failed || status = .timeout then " ❮-- exit " ++ toString r.exitCode else ""
  | none => ""

/-- The line of a stage. -/
def stageLine (now : Int) (width : Nat) (stage : Stage) (index : Nat)
    (results : List StageResult) (failedAt : Option Nat) (finished : Bool) : String :=
  let status := stageStatus index (results.map StageResult.status) failedAt finished
  let runs := if stage.pattern?.isSome then "x" ++ toString results.length else ""
  "┃ " ++ String.singleton status.dot ++ " : " ++ fit width stage.name ++ " [" ++
    Event.pad 8 runs ++ "] " ++ timing (seconds now results) ++ exitNote status results

/-- The lines of stages, counted from `index`. -/
def stageLines (now : Int) (width : Nat) (results : List StageResult) (failedAt : Option Nat)
    (finished : Bool) (index : Nat) : List Stage → List String
  | [] => []
  | s :: stages =>
    stageLine now width s index (results.filter fun r => r.index = index) failedAt finished ::
      stageLines now width results failedAt finished (index + 1) stages

/-! ### The boxes -/

/-- The name of the program. -/
def programName : String := "linear-ci"

/-- The width of the column of names. -/
def nameWidth (spec : Spec) : Nat :=
  (spec.stages.map fun s => s.name.length).foldl max programName.length

/-- The lower edge of a box. -/
def lowerEdge (width : Nat) : String :=
  "┗" ++ String.ofList (List.replicate (5 + width + 11) '━') ++ "┛"

/-- The box of a phase. -/
def box (phase state : String) (width : Nat) (lines : List String) : List String :=
  ["┏━ " ++ phase ++ " (" ++ state ++ ")", "┃"] ++ lines ++ [lowerEdge width]

/-- The box of the main phase. -/
def mainBox (now : Int) (spec : Spec) (o : JobOutcome) : List String :=
  let width := nameWidth spec
  box "main" o.state.word width
    (stageLines now width o.stageResults o.failedAt o.succeeded 0 spec.mainStages)

/-- The box of the publish phase, if the job has one. -/
def publishBox (now : Int) (spec : Spec) (o : PublishOutcome) : List String :=
  let width := nameWidth spec
  match spec.afterSuccess with
  | none => []
  | some b =>
    box "publish" o.state.word width
      (stageLines now width o.stepResults o.failedAt o.published 0 b.steps)

/-- The head of the report. -/
def title (spec : Spec) (o : JobOutcome) : String :=
  "╔ " ++ String.singleton o.status.dot ++ " : " ++ fit (nameWidth spec) programName ++ " [" ++
    spec.platform.display ++ " / " ++ spec.toolchain ++ "]"

/-! ### The tail of the journal -/

/-- Something went wrong. -/
def isBroken (o : JobOutcome) : Bool :=
  !o.succeeded || o.publish.state = .publishFailed || o.publish.state = .cancelled

/-- The last `n` lines, or for a negative number all but the first `-n`. -/
def tailOf (n : Int) (lines : List String) : List String :=
  if 0 ≤ n then lastOf n.toNat lines else lines.drop n.natAbs

/-- The last lines of the journal. -/
def logTail (n : Int) (lines : List String) : List String :=
  let tail := tailOf n lines
  ["", "Last " ++ toString tail.length ++ " log lines:", "```"] ++ tail ++ ["```"]

/-- The number of lines that are shown unless another is asked for. -/
def defaultTail : Int := 20

/-- **The report on a run.** -/
def render (tail : Int) (now : Int) (lines : List String) (spec : Spec) (o : JobOutcome) : String :=
  let graph := ["", "```linear-ci", title spec o] ++ mainBox now spec o ++
    publishBox now spec o.publish ++ ["```"]
  let graph := if tail ≠ 0 && isBroken o then graph ++ logTail tail lines else graph
  "\n" ++ String.intercalate "\n" graph

end BuildLine.Run.Report
