import BuildLine.Shell.Builtin

/-!
# External commands

The commands that a shell starts in a process of their own: the utilities, those that take time or
follow their input as it comes, and those that run something else.
-/

namespace BuildLine.Shell.External

open Files Act

/-- The directories in which utilities are found. -/
def utilityDirs : List String := ["/usr/bin", "/bin"]

/-- The utilities that are not just work on files. -/
def others : List String :=
  ["cat", "sleep", "env", "printenv", "sh", "dash", "true", "false", "echo", "pwd", "printf",
   "test"]

/-- There is a utility of this name. -/
def isUtility (name : String) : Bool :=
  others.contains name || (Utility.all.lookup name).isSome

/-- What a name leads to. -/
inductive Found where
  /-- A utility. -/
  | utility (name : String)
  /-- Something that cannot be run. -/
  | denied
  /-- Nothing. -/
  | missing
  deriving DecidableEq, Repr

/-- Look up a command. -/
def find (name : String) : Act Found := do
  if name.contains '/' then
    let w := Files.Written.ofText name
    let dir := ({ w with names := w.names.dropLast } : Files.Written).text
    let base := w.names.getLast?.getD ""
    if utilityDirs.contains dir && isUtility base then return .utility base
    else match (← tree).look (← process).here name with
      | .ok _ => return .denied
      | .error _ => return .missing
  else
    let dirs := (Text.splitAt ':' ((← valueOf? "PATH").getD "").toList).map String.ofList
    if isUtility name && dirs.any utilityDirs.contains then return .utility name
    else return .missing

/-- Complain about a command that cannot be run, and set the status for it. -/
def refuse (label : String) (f : Found) : Act Unit := do
  match f with
  | .denied => do
    complain (label ++ ": Permission denied")
    finish 126
  | _ => do
    complain (label ++ ": not found")
    finish 127

/-! ### What takes time -/

/-- Write a line to the port for complaints. -/
def complainLine (s : String) : Act Unit := write 2 (s ++ "\n")

/-- Pass on a stream as it comes. -/
def passOn (s : Stream) : Act Unit := do
  for (t, octets) in s.chunks do
    waitUntil t
    succumb
    let _ ← writeOctets 1 octets
  waitUntil s.closes
  succumb

/-- Pass on files and what is given. -/
def cat (ws : List String) : Act Unit := do
  finish 0
  let files := ws.filter fun w => w = "-" || !w.startsWith "-"
  for w in (if files.isEmpty then ["-"] else files) do
    if w = "-" then do passOn (← drain 0)
    else match (← tree).look (← process).here w with
      | .ok (.file octets) => do
        let _ ← writeOctets 1 octets
      | .ok _ => do
        complainLine ("cat: " ++ w ++ ": Is a directory")
        finish 1
      | .error f => do
        complainLine ("cat: " ++ w ++ ": " ++ f.message)
        finish 1

/-- The time that a text spells: a decimal fraction of seconds, or of what the letter at its end
says. -/
def duration? (s : String) : Option Time :=
  let (cs, unit) := match s.toList.getLast? with
    | some 's' => (s.toList.dropLast, 1)
    | some 'm' => (s.toList.dropLast, 60)
    | some 'h' => (s.toList.dropLast, 3600)
    | some 'd' => (s.toList.dropLast, 86400)
    | _ => (s.toList, 1)
  let (whole, rest) := cs.span Char.isDigit
  let fraction := rest.drop 1
  let ok := fraction.all Char.isDigit && (rest.isEmpty || rest.head? = some '.') &&
    !(whole.isEmpty && fraction.isEmpty)
  let value (ds : List Char) : Nat := ds.foldl (fun n c => 10 * n + (c.toNat - 48)) 0
  if s = "infinity" || s = "inf" then some 1000000000000
  else if ok then
    some ((value whole * 1000 + value ((fraction ++ ['0', '0', '0']).take 3)) * unit)
  else none

/-- Wait. -/
def sleep (ws : List String) : Act Unit := do
  let hint := "Try 'sleep --help' for more information."
  if ws.isEmpty then do
    complainLine "sleep: missing operand"
    complainLine hint
    finish 1
  else match ws.find? fun w => (duration? w).isNone with
    | some w => do
      complainLine ("sleep: invalid time interval '" ++ w ++ "'")
      complainLine hint
      finish 1
    | none => do
      waitUntil ((← process).clock + (ws.filterMap duration?).foldl Nat.add 0)
      succumb
      finish 0

/-! ### Programs in programs -/

/-- **Follow a program to its end,** and what it wants to be run then; the process exits in any
case. -/
def whole (rec : Runner) (a : Act Unit) : Act Unit := do
  let jump ← attempt (do
    a
    rec .attend)
  match jump with
  | some (.killed s) => throw (.killed s)
  | some .exhausted => throw .exhausted
  | jump => do
    let p ← process
    let status := statusAfter p.status jump
    if let some action := p.exitTrap then
      change fun p => { p with exitTrap := none, status }
      rec (.lines (Token.all action.toList))
    throw (.exit status)

/-- The letters of the options in front, and the operands behind them. -/
def shOptions : List String → List Char × List String
  | [] => ([], [])
  | w :: ws =>
    if w = "--" then ([], ws)
    else match w.toList with
      | '-' :: c :: cs =>
        let (letters, operands) := shOptions ws
        (c :: cs ++ letters, operands)
      | _ => ([], w :: ws)

/-- Run a program of its own, which knows of this one only the variables that commands see. -/
def sh (rec : Runner) (ws : List String) : Act Unit := do
  let (letters, operands) := shOptions ws
  let options := letters.filter (· ≠ 'c')
  let start (name : String) (parameters : List String) (source : List Char) : Act Unit := do
    let env ← environment
    change fun p =>
      { p with
        name, parameters, options, programNumber := p.number, functions := [], status := 0
        vars := shellVariables env p.here.text, speaker := none, loops := 0, hidden := none }
    whole rec (rec (.lines (Token.all source)))
  let refuse (message : String) : Act Unit := do
    complainLine ("sh: 0: " ++ message)
    finish 2
  match options.find? (!Builtin.optionLetters.contains ·) with
  | some c => refuse ("Illegal option -" ++ String.singleton c)
  | none =>
    match letters.contains 'c', operands with
    | true, [] => refuse "-c requires an argument"
    | true, source :: rest => start (rest.headD "sh") (rest.drop 1) source.toList
    | false, path :: rest =>
      if options.contains 's' then do
        let s ← drain 0
        waitUntil s.closes
        start "sh" operands (Text.Utf8.repair (s.chunks.flatMap Prod.snd))
      else match (← tree).look (← process).here path with
        | .ok (.file octets) => start path rest (Text.Utf8.repair octets)
        | .ok _ => finish 0
        | .error _ => refuse ("cannot open " ++ path ++ ": No such file")
    | false, [] => do
      let s ← drain 0
      waitUntil s.closes
      start "sh" [] (Text.Utf8.repair (s.chunks.flatMap Prod.snd))

/-- Read what is given if a utility asks for it. -/
def given (name : String) (ws : List String) : Act (List UInt8) := do
  if Utility.readsInput name ws then
    let s ← drain 0
    waitUntil s.closes
    succumb
    return s.chunks.flatMap Prod.snd
  else return []

/-- Let a utility work. -/
def work (u : Utility.Deed) (name : String) (ws : List String) : Act Unit := do
  let input ← given name ws
  let w := u { tree := ← tree, here := (← process).here, input } ws
  changeWorld fun world => { world with tree := w.tree }
  for (port, octets) in w.said do
    let _ ← writeOctets port octets
  finish w.status

mutual

/-- **Be a utility.** -/
def be (rec : Runner) : Nat → String → List String → Act Unit
  | 0, _, _ => throw .exhausted
  | n + 1, name, ws => do
    match name, ws with
    | "cat", _ => cat ws
    | "sleep", _ => sleep ws
    | "env", _ => env rec n ws
    | "printenv", [] => env rec n []
    | "printenv", w :: _ => do
      match (← environment).get? w with
      | some v => do
        write 1 (v ++ "\n")
        finish 0
      | none => finish 1
    | "sh", _ | "dash", _ => sh rec ws
    | "true", _ => finish 0
    | "false", _ => finish 1
    | "pwd", _ => do
      write 1 ((← process).here.text ++ "\n")
      finish 0
    | "echo", _ => do
      let (text, ending) := if ws.head? = some "-n" then (ws.drop 1, "") else (ws, "\n")
      write 1 (String.intercalate " " text ++ ending)
      finish 0
    | name, _ =>
      match Builtin.regular.lookup name, Utility.all.lookup name with
      | _, some u => work u name ws
      | some b, none => b rec ws
      | none, none => refuse name .missing

/-- Change what commands see, and be another utility or tell what they see. -/
def env (rec : Runner) : Nat → List String → Act Unit
  | 0, _ => throw .exhausted
  | n + 1, ws => do
    match ws with
    | [] => do
      for (name, value) in ← environment do
        write 1 (name ++ "=" ++ value ++ "\n")
      finish 0
    | "-i" :: ws => do
      change fun p => { p with vars := [] }
      env rec n ws
    | "-u" :: name :: ws => do
      change fun p => { p with vars := p.vars.filter fun v => v.name ≠ name }
      env rec n ws
    | w :: ws =>
      match Text.cutFirst? '=' w.toList with
      | some (name, value) => do
        putVariable
          { name := String.ofList name, value := some (String.ofList value), exported := true }
        env rec n ws
      | none => do
        match ← find w with
        | .utility u => be rec n u ws
        | .denied => do
          complainLine ("env: '" ++ w ++ "': Permission denied")
          finish 126
        | .missing => do
          complainLine ("env: '" ++ w ++ "': No such file or directory")
          finish 127

end

/-- Be a utility with operands, which finds the variables in the order in which the shell hands
them on. -/
def become (rec : Runner) (name : String) (ws : List String) : Act Unit := do
  change fun p => { p with vars := inDrawers p.vars, speaker := none }
  be rec (2 * ws.length + 4) name ws

end BuildLine.Shell.External
