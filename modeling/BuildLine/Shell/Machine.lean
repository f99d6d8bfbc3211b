import BuildLine.Files.Tree
import BuildLine.Settings
import BuildLine.Shell.Signal
import BuildLine.Shell.Token

/-!
# The machine that runs shell programs

A shell runs in a machine with a clock. The clock counts milliseconds; a command takes one, and a
command that waits takes as long as it waits. So the course of a program is determined by the
program, the files and the signals that its processes get at given times, and two runs of it with
the same signals up to a time agree up to this time.

A process is run as a whole before the one that started it goes on. What it did is put in place by
the times at which it did it: output carries its time and the process it comes from, and every
process leaves behind when it ended and until when it kept hold of the output of the program. The
one who reads the output sees its end when nobody keeps hold of it any more.
-/

namespace BuildLine.Shell

open Files

/-- Milliseconds. -/
abbrev Time := Nat

/-- Octets with the time at which they come, the earliest first. -/
structure Stream where
  /-- The octets. -/
  chunks : List (Time × List UInt8) := []
  /-- When nothing more comes. -/
  closes : Time := 0
  deriving Repr

/-- Where a port leads. -/
inductive Port where
  /-- The output of the program. -/
  | screen
  /-- Nowhere. -/
  | nowhere
  /-- A file. -/
  | file (p : Place)
  /-- A stream that is written. -/
  | toStream (n : Nat)
  /-- A stream that is read. -/
  | fromStream (n : Nat)
  deriving DecidableEq, Repr

/-- A variable. -/
structure Variable where
  /-- The name. -/
  name : String
  /-- The value, if it has one. -/
  value : Option String
  /-- Commands see it. -/
  exported : Bool := false
  /-- It cannot be changed. -/
  fixed : Bool := false
  deriving DecidableEq, Repr

/-- Something a process wrote to the output of the program. -/
structure Written where
  /-- When. -/
  time : Time
  /-- Which process. -/
  process : Nat
  /-- What. -/
  octets : List UInt8
  deriving Repr

/-- What a process that has ended left behind. -/
structure Trace where
  /-- The process. -/
  process : Nat
  /-- When it started. -/
  started : Time
  /-- When it ended. -/
  ended : Time
  /-- It kept hold of the output of the program. -/
  heldScreen : Bool
  deriving DecidableEq, Repr

/-- A process that runs beside the shell. -/
structure Job where
  /-- The process. -/
  process : Nat
  /-- The number behind those of the processes that it started. -/
  behind : Nat
  /-- The signals that it ignores. -/
  ignored : List Signal
  /-- When it ends. -/
  ended : Time
  /-- The status that it ends with. -/
  status : Nat
  deriving DecidableEq, Repr

/-- What all processes share. -/
structure World where
  /-- The files. -/
  tree : Tree
  /-- What was written to the output of the program, in the order in which the machine came to
  it. -/
  shown : List Written := []
  /-- The processes that have ended, apart from the first. -/
  traces : List Trace := []
  /-- The streams, by their numbers. -/
  streams : List Stream := []
  /-- The number that the next process gets. -/
  nextProcess : Nat := 1001
  /-- Signals that processes sent each other, with times. -/
  letters : List (Nat × Time × Signal) := []

/-- What a process is. -/
structure Process where
  /-- Its number. -/
  number : Nat := 1000
  /-- The number that a program finds under the double dollar. -/
  programNumber : Nat := 1000
  /-- What time it is. -/
  clock : Time := 0
  /-- The signals that all processes will still get, the earliest first. -/
  signals : List (Time × Signal) := []
  /-- The signals that are ignored. -/
  ignored : List Signal := []
  /-- What is run when a signal comes. -/
  traps : List (Signal × String) := []
  /-- What is run when the process exits. -/
  exitTrap : Option String := none
  /-- The directory. -/
  here : Place
  /-- The path by which the program came to the directory. -/
  path : String
  /-- The variables. -/
  vars : List Variable := []
  /-- The parameters. -/
  parameters : List String := []
  /-- What the program is called. -/
  name : String := "/bin/sh"
  /-- The commands that the program has defined. -/
  functions : List (String × Command) := []
  /-- The status of the last command. -/
  status : Nat := 0
  /-- The line of the command. -/
  line : Nat := 1
  /-- The letters of the options that are set. -/
  options : List Char := []
  /-- A failing command is being tested and does not end the program. -/
  tested : Bool := false
  /-- The command in whose name complaints are made. -/
  speaker : Option String := none
  /-- How many loops are being gone round. -/
  loops : Nat := 0
  /-- What the variables of the function were before, if there is one, by their names. -/
  hidden : Option (List (String × Option Variable)) := none
  /-- The next command is the last one of the process. -/
  last : Bool := false
  /-- The ports. -/
  ports : List (Nat × Port) := [(0, .nowhere), (1, .screen), (2, .screen)]
  /-- The processes that run beside. -/
  jobs : List Job := []
  /-- The last process that was started beside. -/
  lastJob : Option Nat := none

/-- A process in its world. -/
structure State where
  /-- The process. -/
  process : Process
  /-- The world. -/
  world : World

/-- What keeps a process from going on with the next command. -/
inductive Jump where
  /-- It exits. -/
  | exit (status : Nat)
  /-- A signal has ended it. -/
  | killed (s : Signal)
  /-- Loops are left. -/
  | leave (loops : Nat)
  /-- The next round of a loop begins, after leaving loops within it. -/
  | again (loops : Nat)
  /-- A function is left. -/
  | back (status : Nat)
  /-- A command of the shell itself cannot do what it is asked to. -/
  | refused
  /-- The machine was not given enough steps. -/
  | exhausted
  deriving DecidableEq, Repr

/-- Something that a process does. -/
abbrev Act (α : Type) := EStateM Jump State α

/-- What there is to do for a shell. -/
inductive Task where
  /-- Run a command. -/
  | command (c : Command)
  /-- Run the lines of a program. -/
  | lines (tokens : List (Token × Nat))
  /-- Attend to signals that have come. -/
  | attend

/-- A way to do tasks. -/
abbrev Runner := Task → Act Unit

namespace Act

/-! ### The process -/

/-- The process. -/
def process : Act Process := do
  return (← get).process

/-- Change the process. -/
def change (f : Process → Process) : Act Unit :=
  modify fun s => { s with process := f s.process }

/-- The files. -/
def tree : Act Tree := do
  return (← get).world.tree

/-- Change the world. -/
def changeWorld (f : World → World) : Act Unit :=
  modify fun s => { s with world := f s.world }

/-- Set the status of the last command. -/
def finish (status : Nat) : Act Unit :=
  change fun p => { p with status }

/-! ### Variables -/

/-- A variable. -/
def variableOf? (name : String) : Act (Option Variable) := do
  return (← process).vars.find? fun v => v.name = name

/-- The value of a variable. -/
def valueOf? (name : String) : Act (Option String) := do
  return (← variableOf? name).bind Variable.value

/-- Put a variable in the place of the one of its name. -/
def putVariable (v : Variable) : Act Unit :=
  change fun p =>
    { p with
      vars :=
        if p.vars.any fun w => w.name = v.name then
          p.vars.map fun w => if w.name = v.name then v else w
        else p.vars ++ [v] }

/-- Give a variable a value. -/
def setVariable (name value : String) : Act Unit := do
  let v := (← variableOf? name).getD { name, value := none }
  putVariable
    { v with value := some value, exported := v.exported || (← process).options.contains 'a' }

/-- The variables that commands see. -/
def environment : Act Environment := do
  return (← process).vars.filterMap fun v =>
    if v.exported then v.value.map fun x => (v.name, x) else none

/-- Forget a variable. -/
def dropVariable (name : String) : Act Unit :=
  change fun p => { p with vars := p.vars.filter fun v => v.name ≠ name }

/-- Put a variable back to what it was, which may be nothing. -/
def restoreVariable (name : String) : Option Variable → Act Unit
  | some v => putVariable v
  | none => dropVariable name

/-- The drawer in which a shell keeps a variable. It goes through the drawers one by one when it
hands its variables on. -/
def drawer (name : String) : Nat :=
  let octets := (Text.Utf8.encode name.toList).map UInt8.toNat
  (16 * octets.headD 0 + octets.foldl Nat.add 0) % 39

/-- Variables in the order in which a shell hands them on. -/
def inDrawers (vs : List Variable) : List Variable :=
  vs.mergeSort fun v w => drawer v.name ≤ drawer w.name

/-- The variables of a shell that starts in an environment, in a directory. -/
def shellVariables (env : Environment) (path : String) : List Variable :=
  let own : List Variable :=
    [("PATH", "/usr/local/sbin:/usr/local/bin:/usr/sbin:/usr/bin:/sbin:/bin"), ("PS1", "$ "),
     ("PS2", "> "), ("PS4", "+ ")].map fun e => { name := e.1, value := some e.2 }
  let put (vs : List Variable) (v : Variable) : List Variable :=
    if vs.any fun w => w.name = v.name then vs.map fun w => if w.name = v.name then v else w
    else vs ++ [v]
  let isName (s : String) : Bool :=
    s.toList.head?.any Token.startsName && s.toList.all Token.isNameChar
  let given := (env.filter fun e => isName e.1).map fun e =>
    ({ name := e.1, value := some e.2, exported := true } : Variable)
  let seen := given.map Variable.name
  let fixed : List Variable := [("IFS", " \t\n"), ("OPTIND", "1")].map fun e =>
    { name := e.1, value := some e.2, exported := seen.contains e.1 }
  let all := (given ++ fixed).foldl put own
  put all { name := "PWD", value := some path, exported := true }

/-! ### Ports -/

/-- Where a port leads. -/
def portOf? (n : Nat) : Act (Option Port) := do
  return (← process).ports.lookup n

/-- Give a port a new meaning, or none. -/
def setPort (n : Nat) (port : Option Port) : Act Unit :=
  change fun p =>
    let others := p.ports.filter fun e => e.1 ≠ n
    { p with ports := match port with
      | some port => others ++ [(n, port)]
      | none => others }

/-- A new stream. -/
def newStream (s : Stream) : Act Nat := do
  let n := (← get).world.streams.length
  changeWorld fun w => { w with streams := w.streams ++ [s] }
  return n

/-- A stream. -/
def streamOf (n : Nat) : Act Stream := do
  return (← get).world.streams[n]?.getD {}

/-- Change a stream. -/
def changeStream (n : Nat) (f : Stream → Stream) : Act Unit :=
  changeWorld fun w => { w with streams := w.streams.modify n f }

/-- Write octets to where a port leads. -/
def writeTo (port : Port) (octets : List UInt8) : Act Unit := do
  let p ← process
  match port with
  | .screen =>
    let written : Written := { time := p.clock, process := p.number, octets }
    changeWorld fun w => { w with shown := w.shown ++ [written] }
  | .nowhere | .fromStream _ => return
  | .file place =>
    changeWorld fun w =>
      match w.tree.entry? place with
      | some (.file old) => { w with tree := w.tree.set place (.file (old ++ octets)) }
      | _ => w
  | .toStream n =>
    changeStream n fun s => { s with chunks := s.chunks ++ [(p.clock, octets)] }

/-- Write octets to a port. -/
def writeOctets (n : Nat) (octets : List UInt8) : Act Bool := do
  match ← portOf? n with
  | some port => do
    if !octets.isEmpty then writeTo port octets
    return true
  | none => return octets.isEmpty

/-- Write a text to a port. -/
def write (n : Nat) (s : String) : Act Unit := do
  let _ ← writeOctets n (Text.Utf8.encode s.toList)

/-- Complain in the name of the program, and of the command that speaks. -/
def complain (message : String) : Act Unit := do
  let p ← process
  let speaker := match p.speaker with
    | some s => s ++ ": "
    | none => ""
  write 2 (p.name ++ ": " ++ toString p.line ++ ": " ++ speaker ++ message ++ "\n")

/-- What can still be read from a port. -/
def incoming (n : Nat) : Act Stream := do
  match ← portOf? n with
  | some (.fromStream k) => streamOf k
  | _ => return {}

/-- Take everything that can still be read from a port. -/
def drain (n : Nat) : Act Stream := do
  match ← portOf? n with
  | some (.fromStream k) => do
    let s ← streamOf k
    changeStream k fun s => { s with chunks := [] }
    return s
  | _ => return {}

/-! ### Signals -/

/-- The process does something about a signal, or is ended by it. -/
def minds (p : Process) (s : Signal) : Bool :=
  if Signal.isSure s then true
  else if p.ignored.contains s then false
  else !Signal.isHarmless s || (p.traps.lookup s).isSome

/-- The first signal up to a time that the process minds. -/
def nextSignal? (limit : Time) : Act (Option (Time × Signal)) := do
  let p ← process
  return p.signals.find? fun s => s.1 ≤ limit && minds p s.2

/-- Wait until a time, or until a signal comes that the process minds. -/
def waitUntil (limit : Time) : Act Unit := do
  let until? := (← nextSignal? limit).map Prod.fst
  change fun p => { p with clock := max p.clock (until?.getD limit) }

/-- End the process by a signal that came at a time. -/
def die (t : Time) (s : Signal) : Act Unit := do
  change fun p => { p with clock := t }
  throw (.killed s)

/-- Let the process be ended by a signal that has come if nothing is to be run for it. -/
def succumb : Act Unit := do
  let p ← process
  match ← nextSignal? p.clock with
  | some (t, s) => if Signal.isSure s || (p.traps.lookup s).isNone then die t s
  | none => return

/-- Send a signal to a process. -/
def send (process : Nat) (s : Signal) : Act Unit := do
  let p ← Act.process
  if process = p.number then
    change fun p => { p with signals := (p.clock, s) :: p.signals }
  else changeWorld fun w => { w with letters := w.letters ++ [(process, p.clock, s)] }

/-- Take the signals that other processes have sent. -/
def openLetters : Act Unit := do
  let p ← process
  let mine := (← get).world.letters.filter fun l => l.1 = p.number
  if !mine.isEmpty then
    change fun p => { p with signals := mine.map Prod.snd ++ p.signals }
    changeWorld fun w => { w with letters := w.letters.filter fun l => l.1 ≠ p.number }

/-! ### Processes -/

/-- What became of a process. -/
structure Fate where
  /-- The process. -/
  process : Nat
  /-- When it ended. -/
  ended : Time
  /-- The status that others see. -/
  status : Nat
  /-- The signal that ended it. -/
  killedBy : Option Signal
  deriving DecidableEq, Repr

/-- How something ends: with a jump, or without. -/
def attempt (a : Act Unit) : Act (Option Jump) := fun s =>
  match a s with
  | .ok _ s => .ok none s
  | .error j s => .ok (some j) s

/-- The status that others see of a process that ends by a jump, or without one. -/
def statusAfter (status : Nat) : Option Jump → Nat
  | some (.exit n) => n % 256
  | some (.killed s) => 128 + s
  | some (.back n) => n
  | some .refused => 2
  | _ => status

/-- **Do something in a process of its own.** The process starts now, with a copy of everything that
this one has but its traps and its jobs, and is followed to its end; then the clock is turned back
to where it started. -/
def fork (prepare : Process → Process) (a : Act Unit) : Act Fate := do
  let parent ← process
  let number := (← get).world.nextProcess
  changeWorld fun w => { w with nextProcess := number + 1 }
  change fun p =>
    prepare { p with number, traps := [], exitTrap := none, jobs := [], last := false }
  let heldScreen := (← process).ports.any fun e => e.2 = .screen
  let jump ← attempt a
  if jump = some .exhausted then throw .exhausted
  let p ← process
  let trace : Trace :=
    { process := number, started := parent.clock, ended := p.clock, heldScreen }
  changeWorld fun w => { w with traces := w.traces ++ [trace] }
  change fun _ => parent
  openLetters
  return {
    process := number, ended := p.clock, status := statusAfter p.status jump
    killedBy := match jump with
      | some (.killed s) => some s
      | _ => none }

/-- Wait for a process that does not run beside, and say so if a signal has ended it. -/
def await (f : Fate) : Act Unit := do
  change fun p => { p with clock := max p.clock f.ended }
  succumb
  match f.killedBy with
  | some s => if !Signal.isQuiet s then write 2 (Signal.description s ++ "\n")
  | none => return

end Act

end BuildLine.Shell
