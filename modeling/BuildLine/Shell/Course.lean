import BuildLine.Shell.Evaluation

/-!
# The course of a command

What a command does from its start to its end, seen from outside: what it writes and when, when
nobody keeps hold of its output any more, how its first process ends, and when the last of its
processes is gone. The course depends on the signals that the processes are sent together, and on
nothing else that happens outside.
-/

namespace BuildLine.Shell

open Files

/-- How a process ends. -/
inductive Ending where
  /-- It exits. -/
  | exited (status : Nat)
  /-- A signal ends it. -/
  | killed (s : Signal)
  deriving DecidableEq, Repr

/-- The exit code that tells of an ending: a signal counts as its negative number. -/
def Ending.code : Ending → Int
  | .exited n => n
  | .killed s => - (s : Int)

/-- What a command does. -/
structure Course where
  /-- What it writes, with the times at which it does so, the earliest first. -/
  output : List (Time × List UInt8)
  /-- When its output ends. -/
  outputEnds : Time
  /-- How its first process ends. -/
  ending : Ending
  /-- When its first process ends. -/
  ends : Time
  /-- When its last process is gone. -/
  gone : Time
  /-- The files that it leaves. -/
  tree : Tree

/-- A command and what it finds. -/
structure Start where
  /-- The command. -/
  source : String
  /-- The directory. -/
  here : Place
  /-- The variables. -/
  environment : Environment
  /-- The files. -/
  tree : Tree
  /-- The number of its first process. -/
  process : Nat := 1000

namespace Course

/-- How deep tasks may be nested. -/
def budget : Nat := 5000

/-- The first process of a command. -/
def firstProcess (s : Start) (signals : List (Time × Signal)) : Process :=
  let path := match s.environment.get? "PWD" with
    | some p =>
      let place := (s.tree.walk (Files.Written.ofText p).names).toOption
      if p.startsWith "/" && place = some s.here then p else s.here.text
    | none => s.here.text
  { number := s.process, programNumber := s.process, here := s.here, path, signals
    vars := Act.shellVariables s.environment path }

/-- The process runs the command. -/
def perform (s : Start) : Act Unit := do
  let runner : Runner := Evaluation.run budget
  External.whole runner (runner (.lines (Token.all s.source.toList)))

/-- The ending that a jump means. -/
def endingOf : Jump → Ending
  | .exit n => .exited (n % 256)
  | .killed s => .killed s
  | _ => .exited 0

/-- The course that a last state tells of. -/
def ofState (ending : Ending) (s : State) : Course :=
  let ends := s.process.clock
  let held := (s.world.traces.filter Trace.heldScreen).map Trace.ended
  let all := s.world.traces.map Trace.ended
  { output :=
      (s.world.shown.map fun w => (w.time, w.octets)).mergeSort fun a b => a.1 ≤ b.1
    outputEnds := held.foldl max ends
    ending, ends
    gone := all.foldl max ends
    tree := s.world.tree }

/-- **The course of a command** whose processes are sent signals at the given times. -/
def of (s : Start) (signals : List (Time × Signal)) : Course :=
  let state : State :=
    { process := firstProcess s signals
      world := { tree := s.tree, nextProcess := s.process + 1 } }
  match perform s state with
  | .ok _ t => ofState (.exited t.process.status) t
  | .error j t => ofState (endingOf j) t

end Course

end BuildLine.Shell
