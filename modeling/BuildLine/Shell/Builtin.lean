import BuildLine.Shell.Condition
import BuildLine.Shell.Expansion
import BuildLine.Shell.Utility

/-!
# Commands of the shell itself

The commands that a shell carries out itself, because they change the shell or because they are
needed so often. Some of them are *special*: settings before them stay, and what goes wrong in them
ends the program.
-/

namespace BuildLine.Shell.Builtin

open Files Act

/-- What a command of the shell does with its operands. -/
abbrev Deed := Runner → List String → Act Unit

/-- Complain and set the status. -/
def fail (message : String) (status : Nat) : Act Unit := do
  complain message
  finish status

/-- Complain and give up. -/
def refuse (message : String) : Act α := do
  complain message
  throw .refused

/-- A text of digits. -/
def count? (s : String) : Option Nat :=
  if s.isEmpty || !s.toList.all Char.isDigit then none else s.toNat?

/-- The number of an operand, or what stands for it if there is none. -/
def countOr (default : Nat) : List String → Act Nat
  | [] => return default
  | w :: _ =>
    match count? w with
    | some n => return n
    | none => refuse ("Illegal number: " ++ w)

/-- The letters of the options in front, each of which has to be known, and the operands behind
them. -/
def optionsOf (known : List Char) : List String → Act (List Char × List String)
  | [] => return ([], [])
  | w :: ws => do
    if w = "--" then return ([], ws)
    else match w.toList with
      | '-' :: c :: cs => do
        match (c :: cs).find? (!known.contains ·) with
        | some c => refuse ("Illegal option -" ++ String.singleton c)
        | none => do
          let (letters, operands) ← optionsOf known ws
          return (c :: cs ++ letters, operands)
      | _ => return ([], w :: ws)

/-! ### Flow -/

/-- Exit. -/
def exit : Deed := fun _ ws => do
  let n ← countOr (← process).status ws
  throw (.exit (n % 256))

/-- Leave a function. -/
def giveBack : Deed := fun _ ws => do
  let n ← countOr (← process).status ws
  throw (.back (n % 256))

/-- The number of loops that an operand asks for: at least one, and not more than there are. -/
def loopsOf (ws : List String) : Act Nat := do
  let n ← countOr 1 ws
  if n = 0 then refuse "Illegal number: 0"
  return min n (← process).loops

/-- Leave loops. -/
def leaveLoop : Deed := fun _ ws => do
  let n ← loopsOf ws
  finish 0
  if n > 0 then throw (.leave n)

/-- Go to the next round of a loop. -/
def nextRound : Deed := fun _ ws => do
  let n ← loopsOf ws
  finish 0
  if n > 0 then throw (.again n)

/-- Run the program that the operands spell. -/
def eval : Deed := fun rec ws =>
  if ws.isEmpty then finish 0
  else do
    finish 0
    rec (.lines (Token.all (String.intercalate " " ws).toList))

/-- Run the program in a file. -/
def dot : Deed := fun rec ws => do
  match ws with
  | [] => finish 0
  | path :: _ =>
    if !path.contains '/' then refuse (path ++ ": not found")
    match (← tree).look (← process).here path with
    | .ok (.file octets) => do
      finish 0
      change fun p => { p with speaker := some path }
      rec (.lines (Token.all (Text.Utf8.repair octets)))
    | .ok .dir => finish 0
    | _ => refuse ("cannot open " ++ path ++ ": No such file")

/-! ### Variables -/

/-- A name that a variable may have. -/
def isName (s : String) : Bool :=
  s.toList.head?.any Token.startsName && s.toList.all Token.isNameChar

/-- Set a variable that can be changed. -/
def assign (name value : String) : Act Unit := do
  match ← variableOf? name with
  | some v =>
    if v.fixed then do
      complain (name ++ ": is read only")
      throw (.exit 2)
    else setVariable name value
  | none => setVariable name value

/-- Split an operand into a name, which has to be one that a variable may have, and a value. -/
def settingOf (w : String) : Act (String × Option String) := do
  let (name, value) := match Text.cutFirst? '=' w.toList with
    | some (n, v) => (String.ofList n, some (String.ofList v))
    | none => (w, none)
  if !isName name then refuse (name ++ ": bad variable name")
  return (name, value)

/-- A text in single quotes, outside of which its own single quotes stand. -/
def quoted (s : String) : String :=
  let parts := (Text.splitAt '\'' s.toList).map fun p => "'" ++ String.ofList p ++ "'"
  String.intercalate "\"'\"" parts

/-- Tell variables in the order of their names, each in the form of a command. -/
def tell (command : String) (p : Variable → Bool) : Act Unit := do
  let found := ((← process).vars.filter p).mergeSort fun v w => decide (v.name ≤ w.name)
  for v in found do
    let value := match v.value with
      | some x => "=" ++ quoted x
      | none => ""
    write 1 (command ++ v.name ++ value ++ "\n")

/-- Set and mark variables, or tell those that are marked. -/
def mark (command : String) (isMarked : Variable → Bool) (f : Variable → Variable) : Deed :=
  fun _ ws => do
    let (letters, operands) ← optionsOf ['p'] ws
    if operands.isEmpty || letters.contains 'p' then tell (command ++ " ") isMarked
    else for w in operands do
      let (name, value) ← settingOf w
      if let some v := value then assign name v
      putVariable (f ((← variableOf? name).getD { name, value := none }))
    finish 0

/-- Let variables be seen by commands. -/
def exportNames : Deed :=
  mark "export" Variable.exported fun v => { v with exported := true }

/-- Keep variables from being changed. -/
def readonly : Deed :=
  mark "readonly" Variable.fixed fun v => { v with fixed := true }

/-- Let a function have variables of its own. -/
def localNames : Deed := fun _ ws => do
  for w in ws do
    match (← process).hidden with
    | none => refuse "not in a function"
    | some hidden => do
      let (name, value) ← settingOf w
      if (hidden.lookup name).isNone then
        let old ← variableOf? name
        change fun p => { p with hidden := some ((name, old) :: hidden) }
      if let some v := value then assign name v
  finish 0

/-- Forget variables or functions. -/
def unset : Deed := fun _ ws => do
  let (letters, names) ← optionsOf ['f', 'v'] ws
  for w in names do
    if letters.contains 'f' then
      change fun p => { p with functions := p.functions.filter fun f => f.1 ≠ w }
    else if !isName w then refuse (w ++ ": bad variable name")
    else match ← variableOf? w with
      | some v => if v.fixed then refuse (w ++ ": is read only") else dropVariable w
      | none => pure ()
  finish 0

/-- Forget the first parameters. -/
def shift : Deed := fun _ ws => do
  let n ← countOr 1 ws
  if (← process).parameters.length < n then refuse "can't shift that many"
  change fun p => { p with parameters := p.parameters.drop n }
  finish 0

/-- Set or clear options by their letters. -/
def setLetters (on : Bool) (letters : List Char) : Act Unit :=
  change fun p =>
    let rest := p.options.filter (!letters.contains ·)
    { p with options := if on then rest ++ letters else rest }

/-- The letters of the options that can be set. -/
def optionLetters : List Char :=
  ['e', 'f', 'I', 'i', 'm', 'n', 's', 'x', 'v', 'V', 'E', 'C', 'a', 'b', 'u', 'p']

/-- The letters of the options that have names. -/
def optionNames : List (String × Char) :=
  [("errexit", 'e'), ("noglob", 'f'), ("ignoreeof", 'I'), ("monitor", 'm'), ("noexec", 'n'),
   ("xtrace", 'x'), ("verbose", 'v'), ("vi", 'V'), ("emacs", 'E'), ("noclobber", 'C'),
   ("allexport", 'a'), ("notify", 'b'), ("nounset", 'u')]

/-- Set or clear what the operands say, one after the other. -/
def setEach : List String → Act Unit
  | [] => return
  | w :: ws => do
    let on := w.startsWith "-"
    if w = "--" then change fun p => { p with parameters := ws }
    else if w = "-o" || w = "+o" then
      match ws with
      | [] => return
      | name :: ws =>
        match optionNames.lookup name with
        | some c => do
          setLetters on [c]
          setEach ws
        | none => refuse ("Illegal option " ++ w ++ " " ++ name)
    else if on || w.startsWith "+" then do
      if let some c := (w.toList.drop 1).find? (!optionLetters.contains ·) then
        refuse ("Illegal option " ++ (if on then "-" else "+") ++ String.singleton c)
      setLetters on (w.toList.drop 1)
      setEach ws
    else change fun p => { p with parameters := w :: ws }

/-- Set options and parameters, or tell all variables. -/
def set : Deed := fun _ ws => do
  if ws.isEmpty then tell "" fun v => v.value.isSome else setEach ws
  finish 0

/-! ### Directories -/

/-- Print octets in the name of a command. -/
def print (name : String) (octets : List UInt8) : Act Unit := do
  if ← writeOctets 1 octets then finish 0 else fail (name ++ ": I/O error") 1

/-- A path without detours, seen from another. -/
def joined (base path : String) : String :=
  let w := (Files.Written.ofText base).under (Files.Written.ofText path)
  let names := w.names.foldl (fun ns n => if n = ".." then ns.dropLast else ns ++ [n]) []
  ({ w with names } : Files.Written).text

/-- Change the directory. -/
def cd : Deed := fun _ ws => do
  let p ← process
  let (_, ws) ← optionsOf ['L', 'P'] ws
  let home := (← valueOf? "HOME").getD ""
  let (target, told) ← match ws with
    | [] => pure (home, false)
    | "-" :: _ => do pure ((← valueOf? "OLDPWD").getD p.path, true)
    | w :: _ => pure (w, false)
  if target.isEmpty then finish 0
  else
    let path := joined p.path target
    match (← tree).look p.here target, (← tree).walk (Files.Written.ofText path).names with
    | .ok .dir, .ok here => do
      change fun q => { q with here, path }
      for (name, value) in [("OLDPWD", p.path), ("PWD", path)] do
        putVariable { name, value := some value, exported := true }
      if told then write 1 (path ++ "\n")
      finish 0
    | _, _ => refuse ("can't cd to " ++ target)

/-- Tell the directory. -/
def pwd : Deed := fun _ ws => do
  let p ← process
  let (letters, _) ← optionsOf ['L', 'P'] ws
  print "pwd" (Text.Utf8.encode
    ((if letters.contains 'P' then p.here.text else p.path) ++ "\n").toList)

/-! ### Texts -/

/-- Print operands in a line. -/
def echo : Deed := fun _ ws => print "echo" (Print.line ws)

/-- Print operands in the way of a format. What is wrong is told first. -/
def printf : Deed := fun _ ws => do
  match ws.dropWhile (· = "--") with
  | [] => refuse "usage: printf format [arg ...]"
  | format :: operands =>
    let p := Print.formatted format operands
    p.complaints.forM complain
    print "printf" p.octets
    if p.broken then throw .refused
    if !p.complaints.isEmpty then finish 1

/-- Test a condition. -/
def test : Deed := fun _ ws => do
  match Condition.evaluate { tree := ← tree, here := (← process).here } ws with
  | .ok b => finish (if b then 0 else 1)
  | .error m => refuse m

/-- Test a condition in brackets. -/
def bracket : Deed := fun rec ws =>
  if ws.getLast? = some "]" then test rec ws.dropLast else refuse "missing ]"

/-- Take a line off what can be read: its octets, whether it was ended, and when it was there. -/
def takeLine (s : Stream) : List UInt8 × Bool × Time × Stream :=
  go [] s.chunks
where
  /-- Take a line off chunks, behind what was taken already. -/
  go (taken : List UInt8) : List (Time × List UInt8) → List UInt8 × Bool × Time × Stream
    | [] => (taken, false, s.closes, { s with chunks := [] })
    | (t, octets) :: chunks =>
      if octets.contains 10 then
        let rest := (octets.dropWhile (· ≠ 10)).drop 1
        (taken ++ octets.takeWhile (· ≠ 10), true, t, { s with chunks := (t, rest) :: chunks })
      else go (taken ++ octets) chunks

/-- A text without its backslashes, each of which keeps the character behind it. -/
def withoutBackslashes : List Char → List Char
  | '\\' :: c :: s => c :: withoutBackslashes s
  | c :: s => c :: withoutBackslashes s
  | [] => []

/-- Cut a text into so many fields, the last of which takes all that is left. -/
def fieldsOf (separators : List Char) : Nat → List Char → List (List Char)
  | 0, _ => []
  | n + 1, s =>
    let isBlank (c : Char) : Bool := separators.contains c && c.isWhitespace
    let s := s.dropWhile isBlank
    match n with
    | 0 => [(s.reverse.dropWhile isBlank).reverse]
    | n + 1 =>
      let (f, rest) := s.span (!separators.contains ·)
      let rest := rest.dropWhile isBlank
      let rest := match rest with
        | c :: r => if separators.contains c then r else rest
        | [] => []
      f :: fieldsOf separators (n + 1) rest

/-- The letters of the options of `read`, and the operands; a prompt is not shown. -/
def readOptions : List String → Act (List Char × List String)
  | "-p" :: _ :: ws => readOptions ws
  | ws => optionsOf ['r'] ws

/-- Read a line into variables. -/
def read : Deed := fun _ ws => do
  let (letters, names) ← readOptions ws
  if names.isEmpty then refuse "arg count"
  let (octets, ended, t, rest) := takeLine (← incoming 0)
  if let some (.fromStream k) ← portOf? 0 then changeStream k fun _ => rest
  waitUntil t
  succumb
  let s := Text.Utf8.repair octets
  let s := if letters.contains 'r' then s else withoutBackslashes s
  let fs := fieldsOf (← Expansion.separators) names.length s
  for (name, i) in names.zipIdx do
    if !isName name then refuse (name ++ ": bad variable name")
    assign name (String.ofList (fs[i]?.getD []))
  finish (if ended then 0 else 1)

/-! ### Processes -/

/-- The process that runs beside under a number of its own, or under its place among such. -/
def jobOf? (w : String) : Act (Option Job) := do
  let jobs := (← process).jobs
  match w.toList with
  | '%' :: place =>
    let found := match count? (String.ofList place) with
      | some n => if n = 0 then none else jobs[n - 1]?
      | none => if place.isEmpty || place = ['%'] || place = ['+'] then jobs.getLast? else none
    match found with
    | some j => return some j
    | none => refuse ("No such job: " ++ w)
  | _ =>
    match count? w with
    | some n => return jobs.find? fun j => j.process = n
    | none => refuse ("Illegal number: " ++ w)

/-- Wait for processes that run beside. What a signal runs is run at once, and ends the waiting. -/
def wait : Deed := fun rec ws => do
  let found ← ws.mapM jobOf?
  let p ← process
  let wanted := if ws.isEmpty then p.jobs else found.filterMap id
  let limit := (wanted.map Job.ended).foldl max p.clock
  waitUntil limit
  match ← nextSignal? (← process).clock with
  | some (_, s) => do
    rec .attend
    finish (128 + s)
  | none => do
    change fun p => { p with jobs := p.jobs.filter fun j => !wanted.contains j }
    if ws.isEmpty then finish 0
    else finish (((found.getLast?.bind id).map Job.status).getD 127)

/-- Let a signal end a process that runs beside: what it would still have done is not done.
Processes that it had started already go on. -/
def cut (j : Job) (s : Signal) : Act Unit := do
  let now := (← process).clock
  if now < j.ended && !(j.ignored.contains s && !Signal.isSure s) && !Signal.isHarmless s then
    let isLater (t : Time) : Bool := now < t
    let within (n : Nat) : Bool := j.process < n && n < j.behind
    let traces := (← get).world.traces
    let unborn := (traces.filter fun t => within t.process && isLater t.started).map Trace.process
    changeWorld fun w =>
      { w with
        shown := w.shown.filter fun e =>
          !(unborn.contains e.process || (e.process = j.process && isLater e.time))
        traces := (w.traces.filter fun t => !unborn.contains t.process).map fun t =>
          if t.process = j.process then { t with ended := now } else t }
    change fun p =>
      { p with jobs := p.jobs.map fun k =>
          if k.process = j.process then { k with ended := now, status := 128 + s } else k }

/-- The signal that the options of a command name, and the operands behind them. -/
def signalOf : List String → Act (Signal × List String)
  | "-s" :: name :: ws =>
    match Signal.ofName? name with
    | some s => return (s, ws)
    | none => refuse ("invalid signal number or name: " ++ name)
  | "--" :: ws => return (Signal.term, ws)
  | w :: ws =>
    match w.toList with
    | '-' :: name =>
      match Signal.ofName? (String.ofList name) with
      | some s => return (s, if ws.head? = some "--" then ws.drop 1 else ws)
      | none => refuse ("Illegal option -" ++ String.ofList (name.take 1))
    | _ => return (Signal.term, w :: ws)
  | [] => return (Signal.term, [])

/-- Send a signal to a process that an operand names. -/
def sendTo (s : Signal) (w : String) : Act Bool := do
  let p ← process
  let target := match w.toList with
    | '-' :: digits => String.ofList digits
    | _ => w
  let target := if target = "0" then toString p.programNumber else target
  match ← jobOf? target with
  | some j => do
    cut j s
    return true
  | none =>
    match count? target with
    | some n =>
      if n = p.number || n = p.programNumber then do
        send n s
        return true
      else return false
    | none => return false

/-- The name of a signal, which may be given as the status of a process that it ended. -/
def nameOfSignal (w : String) : Act Unit := do
  match count? w with
  | none => refuse ("Illegal number: " ++ w)
  | some n =>
    match Signal.table.find? fun e => e.1 = n || e.1 + 128 = n with
    | some e => write 1 (e.2.1 ++ "\n")
    | none => refuse ("invalid signal number or exit status: " ++ w)

/-- Send a signal to processes. -/
def kill : Deed := fun _ ws => do
  match ws with
  | ["-l"] => finish 0
  | "-l" :: w :: _ => do
    nameOfSignal w
    finish 0
  | ws => do
    let (s, targets) ← if ws.isEmpty then pure (Signal.term, []) else signalOf ws
    if targets.isEmpty then
      refuse ("Usage: kill [-s sigspec | -signum | -sigspec] [pid | job]... or\n" ++
        "kill -l [exitstatus]")
    finish 0
    for w in targets do
      if !(← sendTo s w) then fail "No such process\n" 1

/-- Tell what is done when signals come. -/
def tellTraps : Act Unit := do
  let p ← process
  let row (action name : String) : Act Unit :=
    write 1 ("trap -- " ++ quoted action ++ " " ++ name ++ "\n")
  if let some action := p.exitTrap then row action "EXIT"
  for (s, name, _) in Signal.table do
    match p.traps.lookup s with
    | some action => row action name
    | none => if p.ignored.contains s then row "" name

/-- Say what is done when signals come. -/
def trap : Deed := fun _ ws => do
  let setOne (action : Option String) (name : String) : Act Unit := do
    if name = "EXIT" || name = "0" then change fun p => { p with exitTrap := action }
    else match Signal.ofName? name with
      | none => do
        write 2 ("trap: " ++ name ++ ": bad trap\n")
        finish 1
      | some s => change fun p =>
          let traps := p.traps.filter fun t => t.1 ≠ s
          let ignored := p.ignored.filter (· ≠ s)
          match action with
          | none => { p with traps, ignored }
          | some "" => { p with traps, ignored := s :: ignored }
          | some a => { p with traps := traps ++ [(s, a)], ignored }
  finish 0
  match ws.dropWhile (· = "--") with
  | [] => tellTraps
  | [name] => setOne none name
  | action :: names =>
    if (count? action).isSome then (action :: names).forM (setOne none)
    else names.forM (setOne (if action = "-" then none else some action))

/-- Do nothing. -/
def nothing (status : Nat) : Deed := fun _ _ => finish status

/-- Tell the permissions that new files do not get. -/
def umask : Deed := fun _ ws => do
  if ws.isEmpty then write 1 "0022\n"
  finish 0

/-- The special commands. -/
def special : List (String × Deed) :=
  [(":", nothing 0), (".", dot), ("break", leaveLoop), ("continue", nextRound), ("eval", eval),
   ("exit", exit), ("export", exportNames), ("local", localNames), ("readonly", readonly),
   ("return", giveBack), ("set", set), ("shift", shift), ("times", nothing 0), ("trap", trap),
   ("unset", unset)]

/-- The other commands. -/
def regular : List (String × Deed) :=
  [("[", bracket), ("test", test), ("echo", echo), ("printf", printf), ("cd", cd), ("pwd", pwd),
   ("true", nothing 0), ("false", nothing 1), ("read", read), ("wait", wait), ("kill", kill),
   ("umask", umask), ("hash", nothing 0), ("jobs", nothing 0), ("ulimit", nothing 0),
   ("alias", nothing 0), ("unalias", nothing 0)]

end BuildLine.Shell.Builtin
