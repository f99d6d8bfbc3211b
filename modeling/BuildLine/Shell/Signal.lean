/-!
# Signals

A signal is known by its number. Most signals end a process that does nothing about them; a few are
ignored. Two signals cannot be caught or ignored.
-/

namespace BuildLine.Shell

/-- A signal, by its number. -/
abbrev Signal := Nat

namespace Signal

/-- The signals with their names and with what is said of a process that they ended. -/
def table : List (Signal × String × String) :=
  [(1, "HUP", "Hangup"), (2, "INT", "Interrupt"), (3, "QUIT", "Quit"),
   (4, "ILL", "Illegal instruction"), (5, "TRAP", "Trace/breakpoint trap"), (6, "ABRT", "Aborted"),
   (7, "BUS", "Bus error"), (8, "FPE", "Floating point exception"), (9, "KILL", "Killed"),
   (10, "USR1", "User defined signal 1"), (11, "SEGV", "Segmentation fault"),
   (12, "USR2", "User defined signal 2"), (13, "PIPE", "Broken pipe"), (14, "ALRM", "Alarm clock"),
   (15, "TERM", "Terminated"), (16, "STKFLT", "Stack fault"), (17, "CHLD", "Child exited"),
   (18, "CONT", "Continued"), (19, "STOP", "Stopped (signal)"), (20, "TSTP", "Stopped"),
   (23, "URG", "Urgent I/O condition"), (28, "WINCH", "Window changed")]

/-- The signal that asks a process to end. -/
def term : Signal := 15

/-- The signal that ends a process. -/
def kill : Signal := 9

/-- The signal with a name. The name may be written with three letters before it and in lower case,
or be the number. -/
def ofName? (name : String) : Option Signal :=
  let name := name.toUpper
  let name := if name.startsWith "SIG" then String.ofList (name.toList.drop 3) else name
  match table.find? fun e => e.2.1 = name with
  | some e => some e.1
  | none => name.toNat?

/-- What is said of a process that the signal ended. -/
def description (s : Signal) : String :=
  match table.find? fun e => e.1 = s with
  | some e => e.2.2
  | none => "Signal " ++ toString s

/-- A process that does nothing about the signal goes on. -/
def isHarmless (s : Signal) : Bool :=
  s = 0 || (17 ≤ s && s ≤ 23) || s = 28

/-- Nothing can be done about the signal. -/
def isSure (s : Signal) : Bool :=
  s = kill || s = 19

/-- Nothing is said of a process that the signal ended. -/
def isQuiet (s : Signal) : Bool :=
  s = 2 || s = 13

end Signal

end BuildLine.Shell
