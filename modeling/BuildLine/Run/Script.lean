import BuildLine.Run.Executor

/-!
# Scripted executors

An executor that runs nothing. Its script says which reply a command gets: the first needle that
occurs in the command decides, and a command without one passes. It keeps the calls that were made.
-/

namespace BuildLine.Run

open Data (Table)
open Files Log

/-- A reply of a script. -/
inductive ScriptedReply where
  /-- The command ends with an exit code. -/
  | exit (code : Int)
  /-- The run is interrupted. -/
  | cancel (message : String)
  /-- The executor fails. -/
  | fail (message : String)
  deriving DecidableEq, Repr

/-- What the commands of a run get for a reply. -/
structure Script where
  /-- Needles with the replies they stand for. -/
  replies : List (String × ScriptedReply) := []
  /-- What every command prints. -/
  logs : String := "fake logs"
  deriving Repr

namespace Script

/-- Give a needle a reply: in place if the needle is there, at the end otherwise. -/
def putReply (needle : String) (r : ScriptedReply) :
    List (String × ScriptedReply) → List (String × ScriptedReply)
  | [] => [(needle, r)]
  | e :: es => if e.1 = needle then (needle, r) :: es else e :: putReply needle r es

/-- The replies in the order in which their needles came; a needle that comes again keeps its
place. -/
def repliesOf (es : List (String × ScriptedReply)) : List (String × ScriptedReply) :=
  es.foldl (fun rs e => putReply e.1 e.2 rs) []

/-- The reply that a command gets. -/
def replyTo (s : Script) (command : String) : ScriptedReply :=
  match s.replies.find? fun e => Text.occurs e.1.toList command.toList with
  | some e => e.2
  | none => .exit 0

/-- A script that is being followed. -/
structure State where
  /-- The files, which no command changes. -/
  tree : Tree := []
  /-- The calls that were made, the first one first. -/
  calls : List Call := []
  deriving Repr

/-- What the journal is told of a command. -/
def event (call : Call) (code : Int) : Event :=
  { level := .info, text := "Run command"
    fields := [("executor", .text "mock"), ("command", .text call.command),
      ("cwd", .text call.cwd.text), ("exit_code", .number (.whole code))] }

/-- **The executor that follows a script.** -/
def executor (s : Script) : Executor State where
  run _ call st :=
    let st := { st with calls := st.calls ++ [call] }
    match s.replyTo call.command with
    | .exit code => ([.event (event call code)], .status { exitCode := code, logs := s.logs }, st)
    | .cancel m => ([], .cancelled m, st)
    | .fail m => ([], .failed (.scripted m), st)
  tree := State.tree

namespace State

/-- The commands in the order in which they were run. -/
def commands (st : State) : List String :=
  st.calls.map Call.command

/-- The variables of the first command that a needle occurs in. -/
def envOf? (st : State) (needle : String) : Option Table :=
  (st.calls.find? fun c => Text.occurs needle.toList c.command.toList).map Call.env

/-- Every command with the place at which it ran last, in the order of these places. -/
def order (st : State) : List (Nat × String) :=
  ((List.range st.calls.length).zip st.commands).filter fun e =>
    !(st.commands.drop (e.1 + 1)).contains e.2

end State

end Script

end BuildLine.Run
