import BuildLine.Log.Markup
import BuildLine.Run.Executor
import BuildLine.Run.Transcript
import BuildLine.Shell.Course

/-!
# The local executor

Runs commands in a shell. The output of a command is handed on line by line, redacted, while the
command runs. A command may be stopped: because it takes too long, because whoever listens to the
output interrupts the run or ends it, and then all its processes are asked to end first and, if
some are still there after a time of grace, made to.

Since the course of a command is determined by the signals that its processes get, a stop is worked
out by following the course up to the moment of the stop and then taking the course with the signals
of the stop, which is the same one up to that moment.
-/

namespace BuildLine.Run.Local

open Data (Value Table Number)
open Files Log Shell

/-- What somebody who listens to the output does about a line. -/
structure Listener where
  /-- A line that holds this text makes them interrupt the run. -/
  interruptOn : Option String := none
  /-- A line that holds this text makes them tear the executor down. -/
  teardownOn : Option String := none
  deriving Repr

/-- How commands are run. -/
structure Manner where
  /-- Commands are echoed before they run. -/
  echo : Bool := true
  /-- Lines go to the journal. -/
  keep : Bool := true
  /-- The time of grace, in milliseconds. -/
  grace : Time := 5000
  /-- Who listens. -/
  listener : Listener := {}
  deriving Repr

/-- The state between commands. -/
structure State where
  /-- The files. -/
  tree : Tree := []
  /-- The lines that were handed on. -/
  heard : List String := []

/-! ### Stops -/

/-- A stop: the signals that make it, and a complaint if the processes have to be made to end, with
the time of it. -/
structure Stop where
  /-- The signals. -/
  signals : List (Time × Signal)
  /-- When the processes have to be made to end. -/
  force : Option Time

/-- Put a signal among others, by the times. -/
def insertSignal (s : Time × Signal) : List (Time × Signal) → List (Time × Signal)
  | [] => [s]
  | r :: rs => if r.1 ≤ s.1 then r :: insertSignal s rs else s :: r :: rs

/-- The stop of a command at a time. -/
def stopAt (grace : Time) (start : Start) (signals : List (Time × Signal)) (t : Time) : Stop :=
  let asked := insertSignal (t, Signal.term) signals
  if (Course.of start asked).gone < t + grace then { signals := asked, force := none }
  else { signals := insertSignal (t + grace, Signal.kill) asked, force := some (t + grace) }

/-- Something that the executor tells. -/
def event (process : Option Nat) (level : Level) (text : String) (fields : Table) : Event :=
  let pid : Value := match process with
    | some n => .number (.whole n)
    | none => .null
  Event.withBound [("executor", .text "shell"), ("pid", pid)] { level, text, fields }

/-- The complaint of a stop. -/
def Stop.notices (s : Stop) (process : Nat) : List (Time × Notice) :=
  s.force.toList.map fun t =>
    (t, .event (event (some process) .warning "Process group ignored SIGTERM, killing it" []))

/-! ### Following a command -/

/-- How far a command was followed. -/
structure Following where
  /-- The signals so far. -/
  signals : List (Time × Signal) := []
  /-- The lines that were handed on. -/
  passed : Nat := 0
  /-- The command took too long. -/
  timedOut : Bool := false
  /-- The executor was torn down. -/
  tornDown : Bool := false
  /-- What was told, with times. -/
  told : List (Time × Notice) := []

/-- What happens next while a command is followed. -/
inductive Happening where
  /-- A line makes the listener interrupt the run. -/
  | interrupt (t : Time) (line : Nat)
  /-- A line makes the listener tear the executor down. -/
  | teardown (t : Time) (line : Nat)
  /-- The command has taken too long. -/
  | timeout (t : Time)
  /-- The command ends. -/
  | finished
  deriving DecidableEq, Repr

/-- A text that somebody waits for stands in a line. -/
def holds (wanted : Option String) (line : String) : Bool :=
  wanted.any fun w => Text.occurs w.toList line.toList

/-- The first line that the listener does something about, counted from `k`. -/
def reaction (l : Listener) (tornDown : Bool) (k : Nat) : List (Time × String) → Option Happening
  | [] => none
  | (t, line) :: lines =>
    if holds l.interruptOn line then some (.interrupt t k)
    else if !tornDown && holds l.teardownOn line then some (.teardown t k)
    else reaction l tornDown (k + 1) lines

/-- What happens next. -/
def next (m : Manner) (limit : Option Time) (f : Following) (c : Course)
    (lines : List (Time × String)) : Happening :=
  let reaction := reaction m.listener f.tornDown f.passed (lines.drop f.passed)
  let late := limit.filter fun t => !f.timedOut && t < max c.outputEnds c.ends
  match reaction, late with
  | none, none => .finished
  | none, some t => .timeout t
  | some r, none => r
  | some (.interrupt t k), some t' => if t ≤ t' then .interrupt t k else .timeout t'
  | some (.teardown t k), some t' => if t ≤ t' then .teardown t k else .timeout t'
  | some r, some _ => r

/-- What comes of following a command: the course, how far it was followed, and whether it was
interrupted. -/
structure Followed where
  /-- The course. -/
  course : Course
  /-- How far it was followed. -/
  following : Following
  /-- The lines that were handed on, with times. -/
  lines : List (Time × String)
  /-- The run was interrupted. -/
  interrupted : Bool

/-- What can happen while a command is followed: it can be torn down once, take too long once, and
then end. -/
def maxHappenings : Nat := 3

/-- **Follow a command to its end.** -/
def follow (m : Manner) (secrets : Secrets) (start : Start) (limit : Option Time) :
    Nat → Following → Followed
  | fuel, f =>
    let c := Course.of start f.signals
    let lines := Transcript.ofOutput secrets c.output c.outputEnds
    let tell (f : Following) (t : Time) (text : String) : Following :=
      { f with told := f.told ++ [(t, .event (event (some start.process) .warning text []))] }
    let stop (f : Following) (t : Time) : Following :=
      let s := stopAt m.grace start f.signals t
      { f with signals := s.signals, told := f.told ++ s.notices start.process }
    match fuel, next m limit f c lines with
    | 0, _ | _, .finished => { course := c, following := f, lines, interrupted := false }
    | _, .interrupt t k =>
      let f := stop (tell f t "Interrupted, stopping command") t
      { course := Course.of start f.signals, following := f, lines := lines.take (k + 1)
        interrupted := true }
    | n + 1, .teardown t k =>
      let g := { f with passed := k + 1, tornDown := true }
      let g := if t < c.ends then stop (tell g t "Stopping leftover process") t else g
      follow m secrets start limit n g
    | n + 1, .timeout t => follow m secrets start limit n (stop { f with timedOut := true } t)

/-- The lines that are handed on, as notices with times. -/
def lineNotices (m : Manner) (lines : List (Time × String)) : List (Time × Notice) :=
  if m.keep then lines.map fun l => (l.1, .line l.2) else []

/-- Everything that was told, in the order of the times; a line comes before what is told because
of it. -/
def inOrder (lines told : List (Time × Notice)) : List Notice :=
  ((lines ++ told).mergeSort fun a b => a.1 ≤ b.1).map Prod.snd

/-! ### Commands -/

/-- The milliseconds in a number of seconds, rounded up; none if there is no such time. -/
def milliseconds : Number → Option Time
  | .whole n => some (n * 1000).toNat
  | .real (.finite negative mantissa exponent) =>
    if negative then some 0
    else
      let (n, d) := Decimal.inUnits (mantissa * 1000) 1 (-exponent)
      some ((n + d - 1) / d)
  | .real _ => none

/-- The variables of a command, all of which have to be texts under names without equals signs. -/
def environmentOf : Table → Except Failure Environment
  | [] => .ok []
  | (name, v) :: rest =>
    if name.contains '=' then .error .badName
    else match v with
      | .text s => (environmentOf rest).map ((name, s) :: ·)
      | v => .error (.notText v)

/-- The status for a command that cannot be started. -/
def notFound : Int := 127

/-- What is said of a directory in which no command can run. -/
def directoryMessage (cwd : Place) (f : Files.Fault) : String :=
  "Cannot run in " ++ cwd.text ++ ": " ++ f.message

/-- Whether a command can run in a directory. -/
def checkDirectory (t : Tree) (cwd : Place) : Except Files.Fault Unit :=
  match t.status cwd with
  | .ok .dir => .ok ()
  | .ok _ => .error .notDirectory
  | .error f => .error f

/-- What comes of a command that cannot be started. -/
def notStarted (m : Manner) (call : Call) (f : Files.Fault) (s : State) :
    List Notice × Reply × State :=
  let message := directoryMessage call.cwd f
  let e := event none .error "Command not started"
    [("cwd", .text call.cwd.text), ("error", .text f.message)]
  let line := if m.keep then [Notice.line message] else []
  (.event e :: line, .status { exitCode := notFound, logs := message },
    { s with heard := s.heard ++ [message] })

/-- What is told when a command has taken too long. -/
def timeoutNotice (timeout : Option Number) (f : Following) : List Notice :=
  match timeout, f.timedOut with
  | some n, true => [.event (event none .error "Command timed out" [("timeout", .number n)])]
  | _, _ => []

/-- What comes of a command that is started. -/
def started (m : Manner) (secrets : Secrets) (call : Call) (environment : Environment)
    (s : State) : List Notice × Reply × State :=
  let start : Start := { source := call.command, here := call.cwd, environment, tree := s.tree }
  let limit := call.timeout.bind milliseconds
  let r := follow m secrets start limit maxHappenings {}
  let lines := r.lines.map Prod.snd
  let notices := inOrder (lineNotices m r.lines) r.following.told
  let s := { tree := r.course.tree, heard := s.heard ++ lines }
  if r.interrupted then (notices, .cancelled (secrets.redact call.command), s)
  else
    (notices ++ timeoutNotice call.timeout r.following,
      .status {
        exitCode := r.course.ending.code, logs := Transcript.joined lines
        finishedAt := some (max r.course.outputEnds r.course.ends : Nat)
        timedOut := r.following.timedOut }, s)

/-- **The executor that runs commands in a shell.** -/
def executor (m : Manner) : Executor State where
  run secrets call s :=
    let echo := if m.echo then [Notice.shown (Markup.echo (secrets.redact call.command))] else []
    let (notices, reply, s) := match environmentOf call.env with
      | .error f => ([], .failed f, s)
      | .ok environment =>
        match checkDirectory s.tree call.cwd with
        | .error f => notStarted m call f s
        | .ok () => started m secrets call environment s
    (echo ++ notices, reply, s)
  tree := State.tree

end BuildLine.Run.Local
