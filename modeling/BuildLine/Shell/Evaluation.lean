import BuildLine.Shell.External
import BuildLine.Shell.Grammar

/-!
# Evaluation

Running programs. `step` says what a shell does with a task, where tasks within it are left to
another runner; `run` ties the knot under a budget of nested tasks. A loop needs no budget for its
rounds beyond the one it is given at once, so that it can go round often.
-/

namespace BuildLine.Shell.Evaluation

open Files Act

/-! ### Signals -/

/-- Do what a signal asks for. -/
def heed (rec : Runner) (t : Time) (s : Signal) : Act Unit := do
  let p ← process
  if minds p s then
    match p.traps.lookup s with
    | some action =>
      if Signal.isSure s then die t s
      else do
        rec (.lines (Token.all action.toList))
        finish p.status
    | none => die t s

/-- Attend to the signals that have come. -/
def attend (rec : Runner) : Act Unit := do
  openLetters
  let p ← process
  let due := p.signals.filter fun s => s.1 ≤ p.clock
  if !due.isEmpty then
    change fun p => { p with signals := p.signals.filter fun s => p.clock < s.1 }
    for (t, s) in due do
      heed rec t s

/-! ### Redirections -/

/-- The ports that have names among the files. -/
def device? (path : String) : Act (Option Port) := do
  match path with
  | "/dev/null" => return some .nowhere
  | "/dev/stdin" => return (← portOf? 0).getD .nowhere
  | "/dev/stdout" => return (← portOf? 1).getD .nowhere
  | "/dev/stderr" | "/dev/tty" => return (← portOf? 2).getD .nowhere
  | _ => return none

/-- Lead a port to a file that is read, or say why not. -/
def openFile (port : Nat) (path : String) : Act (Option String) := do
  match (← tree).look (← process).here path with
  | .ok (.file octets) => do
    let n ← newStream { chunks := [(0, octets)] }
    setPort port (some (.fromStream n))
    return none
  | .ok _ => do
    let n ← newStream {}
    setPort port (some (.fromStream n))
    return none
  | .error .missing => return some ("cannot open " ++ path ++ ": No such file")
  | .error f => return some ("cannot open " ++ path ++ ": " ++ f.message)

/-- Lead a port to a file that is written, or say why not. -/
def createFile (port : Nat) (path : String) (keep : Bool) : Act (Option String) := do
  let refuse (m : String) : Option String := some ("cannot create " ++ path ++ ": " ++ m)
  let t ← tree
  match Utility.placeFor t (← process).here path with
  | .error .missing => return refuse "Directory nonexistent"
  | .error f => return refuse f.message
  | .ok place =>
    match t.entry? place with
    | some .dir => return refuse Files.Fault.isDirectory.message
    | entry => do
      if !keep && entry.isSome && (← process).options.contains 'C' then return refuse "File exists"
      let octets := match entry with
        | some (.file octets) => if keep then octets else []
        | _ => []
      changeWorld fun w => { w with tree := w.tree.set place (.file octets) }
      setPort port (some (.file place))
      return none

/-- Carry out a redirection, or say why not. -/
def redirect (rec : Runner) (r : Redirect) : Act (Option String) := do
  let target ← Expansion.text rec r.target
  match r.kind with
  | .here => do
    let n ← newStream { chunks := [(0, Text.Utf8.encode target.toList)] }
    setPort r.port (some (.fromStream n))
    return none
  | .same =>
    if target = "-" then do
      setPort r.port none
      return none
    else match ← portOf? (target.toNat?.getD 100) with
      | some p => do
        setPort r.port (some p)
        return none
      | none => return some (target ++ ": Bad file descriptor")
  | kind =>
    match ← device? target with
    | some p => do
      setPort r.port (some p)
      return none
    | none =>
      if kind = .read then openFile r.port target else createFile r.port target (kind = .append)

/-- Carry out redirections up to one that cannot be, and say so. -/
def redirectAll (rec : Runner) : List Redirect → Act Bool
  | [] => return true
  | r :: rs => do
    match ← redirect rec r with
    | none => redirectAll rec rs
    | some message => do
      complain message
      return false

/-- Go on with a jump, if there is one. -/
def resume : Option Jump → Act Unit
  | none => return
  | some j => throw j

/-- Do something with ports changed for as long as it lasts. -/
def redirected (rec : Runner) (rs : List Redirect) (a : Act Unit) : Act Unit := do
  if rs.isEmpty then a
  else do
    let ports := (← process).ports
    if ← redirectAll rec rs then
      let jump ← attempt a
      change fun p => { p with ports }
      resume jump
    else
      change fun p => { p with ports, status := 2 }

/-! ### Simple commands -/

/-- Exit if the last command failed and nobody tests it. -/
def checkFailure : Act Unit := do
  let p ← process
  if p.options.contains 'e' && !p.tested && p.status ≠ 0 then throw (.exit p.status)

/-- A word takes in the output of a program. -/
def takesOutput (w : Word) : Bool :=
  w.any fun p => p matches .output _ _

/-- Set variables one after the other, and tell what they were set to. -/
def assignAll (rec : Runner) : List (String × Word) → Act (List (String × String))
  | [] => return []
  | (name, w) :: rest => do
    let value ← Expansion.text rec w
    Builtin.assign name value
    return (name, value) :: (← assignAll rec rest)

/-- Set variables that commands see, one after the other, and tell what they were set to. -/
def lend (rec : Runner) : List (String × Word) → Act (List (String × String))
  | [] => return []
  | (name, w) :: rest => do
    let value ← Expansion.text rec w
    Builtin.assign name value
    if let some v ← variableOf? name then putVariable { v with exported := true }
    return (name, value) :: (← lend rec rest)

/-- Do something with variables set for as long as it lasts. It is given what they were set to. -/
def withSettings (rec : Runner) (settings : List (String × Word))
    (a : List (String × String) → Act Unit) : Act Unit := do
  if settings.isEmpty then a []
  else do
    let old := (← process).vars
    let jump ← attempt (do a (← lend rec settings))
    for name in (settings.map Prod.fst).eraseDups do
      restoreVariable name (old.find? fun v => v.name = name)
    resume jump

/-- Show a command before it runs, if that is asked for, where `port` leads. -/
def trace (port : Option Port) (settings : List (String × String)) (ws : List String) :
    Act Unit := do
  if (← process).options.contains 'x' then
    let parts := settings.map (fun s => s.1 ++ "=" ++ s.2) ++ ws
    let line := (← valueOf? "PS4").getD "" ++ String.intercalate " " parts ++ "\n"
    if let some port := port then writeTo port (Text.Utf8.encode line.toList)

/-- Start a command that the shell does not know, in this process if it is its last one. -/
def start (rec : Runner) (last : Bool) (name : String) (ws : List String) : Act Unit := do
  match ← External.find name with
  | .utility u =>
    if last then do
      External.become rec u ws
      throw (.exit (← process).status)
    else do
      let fate ← fork id (External.become rec u ws)
      await fate
      finish fate.status
  | f => External.refuse name f

/-- Be another command from now on. -/
def replace (rec : Runner) (ws : List String) : Act Unit := do
  match ws with
  | [] => finish 0
  | name :: ws => do
    change fun p => { p with traps := [], exitTrap := none }
    match ← External.find name with
    | .utility u => External.become rec u ws
    | f => External.refuse ("exec: " ++ name) f
    throw (.exit (← process).status)

/-- Call a function. Variables of its own are put back to what they were before. -/
def call (rec : Runner) (body : Command) (ws : List String) : Act Unit := do
  let p ← process
  change fun p => { p with parameters := ws, loops := 0, hidden := some [] }
  let jump ← attempt (rec (.command body))
  for (name, old) in ((← process).hidden.getD []) do
    restoreVariable name old
  change fun q => { q with parameters := p.parameters, loops := p.loops, hidden := p.hidden }
  match jump with
  | some (.back n) => finish n
  | jump => resume jump

/-- Run a command of the shell itself. If it gives up, and is a special one, the shell exits. -/
def runBuiltin (rec : Runner) (special : Bool) (name : String) (b : Builtin.Deed)
    (ws : List String) : Act Unit := do
  let speaker := (← process).speaker
  change fun p => { p with speaker := some name }
  let jump ← attempt (b rec ws)
  change fun p => { p with speaker }
  match jump with
  | some .refused => if special then throw (.exit 2) else finish 2
  | jump => resume jump

/-- Run a command that is not a function. What is called by `command` is never special. -/
def runPlain (rec : Runner) (last special : Bool) (name : String) (ws : List String) :
    Act Unit := do
  match Builtin.special.lookup name, Builtin.regular.lookup name with
  | some b, _ => runBuiltin rec special name b ws
  | none, some b => runBuiltin rec false name b ws
  | none, none => start rec last name ws

/-- What a name leads to. -/
inductive Meaning where
  /-- A word of the grammar. -/
  | keyword
  /-- A function. -/
  | function
  /-- A command of the shell itself. -/
  | builtin (special : Bool)
  /-- A utility. -/
  | utility (name : String)
  /-- Nothing. -/
  | nothing

/-- What a name leads to. -/
def meaningOf (name : String) : Act Meaning := do
  let p ← process
  if Grammar.reserved.contains name then return .keyword
  else if (p.functions.lookup name).isSome then return .function
  else if (Builtin.special.lookup name).isSome || name = "exec" then return .builtin true
  else if (Builtin.regular.lookup name).isSome || name = "command" || name = "type" then
    return .builtin false
  else match ← External.find name with
    | .utility u => return .utility u
    | _ => return .nothing

/-- Tell what a name leads to, in words or as something that can be called. -/
def describe (inWords : Bool) (name : String) : Act Unit := do
  let told (text path : String) : Act Unit :=
    write 1 ((if inWords then name ++ " is " ++ text else path) ++ "\n")
  match ← meaningOf name with
  | .keyword => told "a shell keyword" name
  | .function => told "a shell function" name
  | .builtin true => told "a special shell builtin" name
  | .builtin false => told "a shell builtin" name
  | .utility u => told ("/usr/bin/" ++ u) ("/usr/bin/" ++ u)
  | .nothing => do
    if inWords then write 1 (name ++ ": not found\n")
    finish 127

/-- Tell what names lead to. -/
def type (ws : List String) : Act Unit := do
  finish 0
  ws.forM (describe true)

/-- Run a command that is not a function, or tell what it is. -/
def command (rec : Runner) (last : Bool) : List String → Act Unit
  | [] | "-v" :: [] | "-V" :: [] => finish 0
  | "-v" :: name :: _ => do
    finish 0
    describe false name
  | "-V" :: name :: _ => do
    finish 0
    describe true name
  | "-p" :: ws | "--" :: ws => command rec last ws
  | "command" :: ws => command rec last ws
  | name :: ws => runPlain rec last false name ws

/-- Run a command with its operands. -/
def dispatch (rec : Runner) (last : Bool) (name : String) (ws : List String) : Act Unit := do
  match (← process).functions.lookup name with
  | some body => call rec body ws
  | none =>
    if name = "command" then command rec last ws
    else if name = "type" then type ws
    else runPlain rec last true name ws

/-- Run what a simple command comes to. -/
def simple (rec : Runner) (settings : List (String × Word)) (words : List Word)
    (redirects : List Redirect) : Act Unit := do
  let last := (← process).last
  change fun p => { p with last := false }
  let screen ← portOf? 2
  match ← Expansion.allFields rec words with
  | [] => redirected rec redirects do
      let values ← assignAll rec settings
      if !values.isEmpty then trace screen values []
      if !(settings.any fun s => takesOutput s.2) && !words.any takesOutput then finish 0
  | name :: ws =>
    if name = "exec" then do
      trace screen (← assignAll rec settings) (name :: ws)
      if ← redirectAll rec redirects then replace rec ws else throw (.exit 2)
    else if (Builtin.special.lookup name).isSome then do
      let ports := (← process).ports
      if !(← redirectAll rec redirects) then throw (.exit 2)
      trace screen (← assignAll rec settings) (name :: ws)
      let jump ← attempt (dispatch rec last name ws)
      change fun p => { p with ports }
      resume jump
    else redirected rec redirects (withSettings rec settings fun values => do
      trace screen values (name :: ws)
      dispatch rec last name ws)

/-! ### Compound commands -/

/-- Run a command whose failure is tested. -/
def tested (rec : Runner) (c : Command) : Act Unit := do
  let before := (← process).tested
  change fun p => { p with tested := true }
  let jump ← attempt (rec (.command c))
  change fun p => { p with tested := before }
  resume jump

/-- The last command was successful. -/
def passed : Act Bool := do
  return (← process).status = 0

/-- The command is a simple one. -/
def isSimple : Command → Bool
  | .simple _ _ _ _ => true
  | _ => false

/-- Run commands side by side, the first of which reads from `input`. -/
def sideBySide (rec : Runner) (input : Option Port) : List Command → Act (List Fate)
  | [] => return []
  | c :: cs => do
    let output ← if cs.isEmpty then portOf? 1 else do
      pure (some (Port.toStream (← newStream {})))
    let lead (n : Nat) (port : Option Port) (ports : List (Nat × Port)) : List (Nat × Port) :=
      ports.filter (fun e => e.1 ≠ n) ++ (port.map fun q => (n, q)).toList
    let fate ← fork
      (fun p => { p with ports := lead 0 input (lead 1 output p.ports), last := isSimple c })
      (External.whole rec (rec (.command c)))
    let next ← match output with
      | some (.toStream n) => do
        changeStream n fun s => { s with closes := fate.ended }
        pure (some (Port.fromStream n))
      | _ => pure none
    return fate :: (← sideBySide rec next cs)

/-- Run commands side by side and wait for all of them. -/
def pipeline (rec : Runner) (cs : List Command) : Act Unit := do
  let fates ← sideBySide rec (← portOf? 0) cs
  fates.forM await
  finish ((fates.getLast?.map Fate.status).getD 0)

/-- Run a command without waiting for it. -/
def beside (rec : Runner) (c : Command) : Act Unit := do
  let ignored := (← process).ignored ++ [2, 3]
  let fate ← fork
    (fun p =>
      { p with
        ports := (0, .nowhere) :: p.ports.filter fun e => e.1 ≠ 0
        ignored, last := isSimple c })
    (External.whole rec (rec (.command c)))
  let behind := (← get).world.nextProcess
  let job : Job :=
    { process := fate.process, behind, ignored, ended := fate.ended, status := fate.status }
  change fun p => { p with jobs := p.jobs ++ [job], lastJob := some fate.process }
  finish 0

/-- Run the first of the commands whose condition passes. -/
def firstOf (rec : Runner) (last : Command) : List (Command × Command) → Act Unit
  | [] => do
    finish 0
    rec (.command last)
  | (condition, body) :: rest => do
    tested rec condition
    if ← passed then rec (.command body) else firstOf rec last rest

/-- Do something that goes round a loop. -/
def looping (a : Act Unit) : Act Unit := do
  let loops := (← process).loops
  change fun p => { p with loops := loops + 1 }
  let jump ← attempt a
  change fun p => { p with loops }
  resume jump

/-- Run the body of a loop. The answer says whether the loop goes on. -/
def round (rec : Runner) (body : Command) : Act Bool := do
  match ← attempt (rec (.command body)) with
  | none => return true
  | some (.leave n) => if n ≤ 1 then return false else throw (.leave (n - 1))
  | some (.again n) => if n ≤ 1 then return true else throw (.again (n - 1))
  | some j => throw j

/-- Go round a loop as long as its condition says; `status` is the status of the last round. -/
def rounds (rec : Runner) (untilPasses : Bool) (condition body : Command) :
    Nat → Nat → State → EStateM.Result Jump State Unit
  | 0, _, s => .error .exhausted s
  | n + 1, status, s =>
    let once : Act (Option Nat) := do
      tested rec condition
      if (← passed) = untilPasses then do
        finish status
        return none
      else do
        let more ← round rec body
        if more then return some (← process).status else return none
    match once s with
    | .ok (some status) s => rounds rec untilPasses condition body n status s
    | .ok none s => .ok () s
    | .error j s => .error j s

/-- The most rounds of a loop. -/
def maxRounds : Nat := 1000000

/-- Run the body of a loop for every value. -/
def forEach (rec : Runner) (name : String) (body : Command) : List String → Act Unit
  | [] => return
  | v :: vs => do
    Builtin.assign name v
    if ← round rec body then forEach rec name body vs

/-- One of the patterns matches the text. -/
def anyMatch (rec : Runner) (s : String) : List Word → Act Bool
  | [] => return false
  | w :: ws => do
    let f ← Expansion.field rec w
    if Pattern.matchesGlyphs (Expansion.glyphs f) s.toList then return true
    else anyMatch rec s ws

/-- Run the first of the commands one of whose patterns matches. -/
def firstMatch (rec : Runner) (s : String) : List (List Word × Command) → Act Unit
  | [] => finish 0
  | (patterns, body) :: rest => do
    if ← anyMatch rec s patterns then do
      finish 0
      rec (.command body)
    else firstMatch rec s rest

/-- Run a command. -/
def runCommand (rec : Runner) : Command → Act Unit
  | .nothing => return
  | .simple line settings words redirects => do
    rec .attend
    change fun p => { p with line, clock := p.clock + 1 }
    if !(← process).options.contains 'n' then simple rec settings words redirects
    rec .attend
    checkFailure
  | .pipe negated [c] => do
    if negated then
      tested rec c
      finish (if ← passed then 1 else 0)
    else rec (.command c)
  | .pipe negated cs => do
    pipeline rec cs
    if negated then finish (if ← passed then 1 else 0) else checkFailure
  | .both a b => do
    tested rec a
    if ← passed then rec (.command b)
  | .either a b => do
    tested rec a
    if !(← passed) then rec (.command b)
  | .next a b => do
    rec (.command a)
    rec (.command b)
  | .async c => beside rec c
  | .subshell c => do
    rec .attend
    let fate ← fork id (External.whole rec (rec (.command c)))
    await fate
    finish fate.status
    rec .attend
    checkFailure
  | .redirected c redirects => redirected rec redirects (rec (.command c))
  | .choose branches last => firstOf rec last branches
  | .loop untilPasses condition body =>
    looping (rounds rec untilPasses condition body maxRounds 0)
  | .each name words body => do
    let values ← match words with
      | some ws => Expansion.allFields rec ws
      | none => do pure (← process).parameters
    finish 0
    looping (forEach rec name body values)
  | .select line w cases => do
    change fun p => { p with line }
    firstMatch rec (← Expansion.text rec w) cases
  | .define name body => do
    change fun p => { p with functions := (name, body) :: p.functions.filter fun f => f.1 ≠ name }
    finish 0

/-- Run the lines of a program. -/
def runLines (rec : Runner) (tokens : List (Token × Nat)) : Act Unit := do
  match Grammar.line? tokens with
  | .ok none => rec .attend
  | .ok (some (c, rest)) => do
    rec (.command c)
    rec (.lines rest)
  | .error f => do
    change fun p => { p with line := f.line }
    let kind := if f.message = "Bad substitution" then "" else "Syntax error: "
    complain (kind ++ f.message)
    throw (.exit 2)

/-- What a shell does with a task, where tasks within it are left to another runner. -/
def step (rec : Runner) : Runner
  | .command c => runCommand rec c
  | .lines tokens => runLines rec tokens
  | .attend => attend rec

/-- **Do a task,** with a budget of nested tasks. -/
def run : Nat → Runner
  | 0, _ => throw .exhausted
  | n + 1, t => step (run n) t

end BuildLine.Shell.Evaluation
