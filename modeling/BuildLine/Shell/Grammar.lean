import BuildLine.Shell.Token

/-!
# The grammar

Commands out of tokens. A program is read line by line, so that what is wrong with a later line does
not keep an earlier one from running. Reserved words mean something only where a command may start.
-/

namespace BuildLine.Shell.Grammar

/-- Tokens with their lines. -/
abbrev Tokens := List (Token × Nat)

/-- A part of the grammar: what is read off the front of the tokens. -/
abbrev Part (α : Type) := StateT Tokens (Except Fault) α

/-- The word that opens a group. -/
def groupOpening : String := "\x7b"

/-- The word that closes a group. -/
def groupClosing : String := "\x7d"

/-- The words that mean something where a command may start. -/
def reserved : List String :=
  ["!", "case", "do", "done", "elif", "else", "esac", "fi", "for", "if", "in", "then", "until",
   "while", groupOpening, groupClosing]

/-- The reserved words that end a list of commands. -/
def closings : List String :=
  ["do", "done", "elif", "else", "esac", "fi", "then", groupClosing]

/-- The operators that redirect. -/
def redirections : List String := ["<", ">", ">>", "<&", ">&", "<>", ">|"]

/-- A token in quotes, as complaints show it. -/
def shown (s : String) : String := "\"" ++ s ++ "\""

/-- What complaints call a token. -/
def nameOf : Token → String
  | .word _ (some w) => if reserved.contains w then shown w else "word"
  | .word _ none => "word"
  | .operator o => if redirections.contains o then "redirection" else shown o
  | .port _ | .here _ => "redirection"
  | .newline => "newline"
  | .finish => "end of file"
  | .broken m => m

/-- The next token and its line. -/
def peek : Part (Token × Nat) := do
  match ← get with
  | t :: _ => return t
  | [] => return (.finish, 1)

/-- Go past a token. -/
def skip : Part Unit := modify fun ts => ts.drop 1

/-- Complain about the next token, where a certain one is expected if there is one. -/
def unexpected (expected : Option String := none) : Part α := do
  match ← peek with
  | (.broken m, line) => throw ⟨line, m⟩
  | (t, line) =>
    let expecting := match expected with
      | some e => " (expecting " ++ shown e ++ ")"
      | none => ""
    throw ⟨line, nameOf t ++ " unexpected" ++ expecting⟩

/-- The next token is an operator. -/
def sees (o : String) : Part Bool := do
  match ← peek with
  | (.operator p, _) => return p = o
  | _ => return false

/-- The next token, if it is a word without quotes. -/
def seesBare : Part (Option String) := do
  match ← peek with
  | (.word _ w, _) => return w
  | _ => return none

/-- Go past an operator. -/
def operator (o : String) : Part Unit := do
  if ← sees o then skip else unexpected (some o)

/-- Complain about the next token where a word is expected. -/
def wordExpected : Part α := do
  match ← peek with
  | (.broken m, line) => throw ⟨line, m⟩
  | (t, line) => throw ⟨line, nameOf t ++ " unexpected (expecting word)"⟩

/-- The words that name special commands of the shell, which no function may have. -/
def specialNames : List String :=
  [".", ":", "break", "continue", "eval", "exec", "exit", "export", "local", "readonly", "return",
   "set", "shift", "times", "trap", "unset"]

/-- A name that a function may have. -/
def isFunctionName (s : String) : Bool :=
  s.toList.head?.any Token.startsName && s.toList.all Token.isNameChar && !specialNames.contains s

/-- Go past a reserved word. -/
def keyword (w : String) : Part Unit := do
  if (← seesBare) = some w then skip else unexpected (some w)

/-- Go past the ends of lines. -/
def skipNewlines : Part Unit := modify fun ts => ts.dropWhile fun t => t.1 matches .newline

/-! ### Simple commands -/

/-- The setting that a word makes: a name, an equals sign and a value. -/
def setting? (w : Word) : Option (String × Word) :=
  match w with
  | .plain s :: rest =>
    match Text.cutFirst? '=' s with
    | some (name, value) =>
      if name.head?.any Token.startsName && name.all Token.isNameChar then
        some (String.ofList name, if value.isEmpty then rest else .plain value :: rest)
      else none
    | none => none
  | _ => none

/-- What a redirecting operator does, and the port that it is about if none is named. -/
def redirectionOf (o : String) : Redirection × Nat :=
  match o with
  | "<" => (.read, 0)
  | "<>" => (.read, 0)
  | ">>" => (.append, 1)
  | "<&" => (.same, 0)
  | ">&" => (.same, 1)
  | _ => (.write, 1)

/-- The redirection that comes next, if one does. -/
def redirect? : Part (Option Redirect) := do
  let (named, ts) := match ← get with
    | (.port n, _) :: ts => (some n, ts)
    | ts => (none, ts)
  match ts with
  | (.here body, _) :: ts =>
    set ts
    return some { port := named.getD 0, kind := .here, target := body }
  | (.operator o, _) :: ts =>
    if redirections.contains o then
      set ts
      match ts with
      | (.word w _, _) :: ts =>
        set ts
        let (kind, port) := redirectionOf o
        return some { port := named.getD port, kind, target := w }
      | _ => unexpected
    else return none
  | _ => return none

/-- The redirections that come next. -/
def redirects : Nat → Part (List Redirect)
  | 0 => return []
  | n + 1 => do
    match ← redirect? with
    | none => return []
    | some r => return r :: (← redirects n)

/-- The parts of a simple command. -/
structure Parts where
  /-- What it sets. -/
  settings : List (String × Word) := []
  /-- Its words. -/
  words : List Word := []
  /-- Its redirections. -/
  redirects : List Redirect := []

/-- Read the parts of a simple command. -/
def simpleParts : Nat → Parts → Part Parts
  | 0, p => return p
  | n + 1, p => do
    match ← redirect? with
    | some r => simpleParts n { p with redirects := p.redirects ++ [r] }
    | none =>
      match ← peek with
      | (.word w _, _) => do
        skip
        match setting? w with
        | some s =>
          if p.words.isEmpty then simpleParts n { p with settings := p.settings ++ [s] }
          else simpleParts n { p with words := p.words ++ [w] }
        | none => simpleParts n { p with words := p.words ++ [w] }
      | _ => return p

/-- The words up to the end of a list of words. -/
def wordsHere : Nat → Part (List Word)
  | 0 => return []
  | n + 1 => do
    match ← peek with
    | (.word w _, _) => do
      skip
      return w :: (← wordsHere n)
    | _ => return []

/-- The patterns before a bracket; whatever stands in the place of a pattern is taken for one. -/
def patternsHere : Nat → Part (List Word)
  | 0 => unexpected
  | n + 1 => do
    let w := match ← peek with
      | (.word w _, _) => w
      | _ => []
    skip
    if ← sees "|" then do
      skip
      return w :: (← patternsHere n)
    else return [w]

/-- Go past the end of a list of words. -/
def endOfWords : Part Unit := do
  match ← peek with
  | (.newline, _) => skipNewlines
  | (.operator ";", _) => do
    skip
    skipNewlines
  | _ => unexpected

/-! ### Commands -/

mutual

/-- Read commands up to something that ends a list of them; there is none at the end of the
program. -/
def list : Nat → Part Command
  | 0 => unexpected
  | n + 1 => do
    skipNewlines
    match ← peek with
    | (.finish, _) => return .nothing
    | _ => do
      let c ← andOr n
      listRest n c

/-- Read the commands behind a command. -/
def listRest : Nat → Command → Part Command
  | 0, c => return c
  | n + 1, c => do
    let more (c : Command) : Part Command := do
      skipNewlines
      match ← peek with
      | (.finish, _) => return c
      | (.operator o, _) =>
        if o = ")" || o = ";;" then return c else return .next c (← list n)
      | (.word _ (some w), _) =>
        if closings.contains w then return c else return .next c (← list n)
      | _ => return .next c (← list n)
    match ← peek with
    | (.newline, _) => more c
    | (.operator ";", _) => do
      skip
      more c
    | (.operator "&", _) => do
      skip
      more (.async c)
    | _ => return c

/-- Read commands joined by whether they pass. -/
def andOr : Nat → Part Command
  | 0 => unexpected
  | n + 1 => do
    let c ← pipeline n
    andOrRest n c

/-- Read the commands joined to a command. -/
def andOrRest : Nat → Command → Part Command
  | 0, c => return c
  | n + 1, c => do
    if ← sees "&&" then do
      skip
      skipNewlines
      let d ← pipeline n
      andOrRest n (.both c d)
    else if ← sees "||" then do
      skip
      skipNewlines
      let d ← pipeline n
      andOrRest n (.either c d)
    else return c

/-- Read commands side by side. -/
def pipeline : Nat → Part Command
  | 0 => unexpected
  | n + 1 => do
    let negated := (← seesBare) = some "!"
    if negated then skip
    let c ← command n
    let cs ← pipelineRest n
    if negated || !cs.isEmpty then return .pipe negated (c :: cs) else return c

/-- Read the commands beside a command. -/
def pipelineRest : Nat → Part (List Command)
  | 0 => return []
  | n + 1 => do
    if ← sees "|" then do
      skip
      skipNewlines
      let c ← command n
      return c :: (← pipelineRest n)
    else return []

/-- Read a command. -/
def command : Nat → Part Command
  | 0 => unexpected
  | n + 1 => do
    let withRedirects (c : Command) : Part Command := do
      let rs ← redirects n
      return if rs.isEmpty then c else .redirected c rs
    match ← peek with
    | (.operator "(", _) => do
      skip
      let c ← list n
      operator ")"
      withRedirects (.subshell c)
    | (.word w bare, line) =>
      match bare with
      | some "if" => do
        skip
        let branches ← branches n
        withRedirects (.choose branches.1 branches.2)
      | some "while" => do
        skip
        let c ← loop n false
        withRedirects c
      | some "until" => do
        skip
        let c ← loop n true
        withRedirects c
      | some "for" => do
        skip
        let c ← each n
        withRedirects c
      | some "case" => do
        skip
        let c ← select n line
        withRedirects c
      | bare =>
        if bare = some groupOpening then do
          skip
          let c ← list n
          keyword groupClosing
          withRedirects c
        else if bare.any reserved.contains then unexpected
        else do
          match (← get) with
          | _ :: (.operator "(", _) :: ts => do
            set ts
            operator ")"
            let name := Token.literalText w
            if !isFunctionName name then throw ⟨line, "Bad function name"⟩
            skipNewlines
            let body ← command n
            return .define name body
          | _ => simple n line
    | (.port _, line) | (.here _, line) => simple n line
    | (.operator o, line) => if redirections.contains o then simple n line else unexpected
    | _ => unexpected

/-- Read a simple command. -/
def simple : Nat → Nat → Part Command
  | 0, _ => unexpected
  | _ + 1, line => do
    let p ← simpleParts (← get).length {}
    return .simple line p.settings p.words p.redirects

/-- Read conditions with their commands, behind the word that opens the first one. -/
def branches : Nat → Part (List (Command × Command) × Command)
  | 0 => unexpected
  | n + 1 => do
    let condition ← list n
    keyword "then"
    let body ← list n
    match ← seesBare with
    | some "elif" => do
      skip
      let (rest, last) ← branches n
      return ((condition, body) :: rest, last)
    | some "else" => do
      skip
      let last ← list n
      keyword "fi"
      return ([(condition, body)], last)
    | _ => do
      keyword "fi"
      return ([(condition, body)], .nothing)

/-- Read the condition and the body of a loop. -/
def loop : Nat → Bool → Part Command
  | 0, _ => unexpected
  | n + 1, untilPasses => do
    let condition ← list n
    keyword "do"
    let body ← list n
    keyword "done"
    return .loop untilPasses condition body

/-- Read a loop over words. -/
def each : Nat → Part Command
  | 0 => unexpected
  | n + 1 => do
    match ← peek with
    | (.word _ (some name), line) =>
      if !(name.toList.head?.any Token.startsName && name.toList.all Token.isNameChar) then
        throw ⟨line, "Bad for loop variable"⟩
      skip
      let separated ← sees ";"
      if !separated then skipNewlines
      let words ← if !separated && (← seesBare) = some "in" then do
          skip
          let ws ← wordsHere (← get).length
          endOfWords
          pure (some ws)
        else do
          if separated then skip
          skipNewlines
          pure none
      keyword "do"
      let body ← list n
      keyword "done"
      return .each name words body
    | (_, line) => throw ⟨line, "Bad for loop variable"⟩

/-- Read a choice by patterns. -/
def select : Nat → Nat → Part Command
  | 0, _ => unexpected
  | n + 1, line => do
    match ← peek with
    | (.word w _, _) => do
      skip
      skipNewlines
      keyword "in"
      let cs ← cases n
      return .select line w cs
    | _ => wordExpected

/-- Read the cases of a choice. -/
def cases : Nat → Part (List (List Word × Command))
  | 0 => unexpected
  | n + 1 => do
    skipNewlines
    if (← seesBare) = some "esac" then
      skip
      return []
    if ← sees "(" then skip
    let ps ← patternsHere (← get).length
    operator ")"
    skipNewlines
    let ended ← do
      let separated ← sees ";;"
      pure (separated || (← seesBare).any closings.contains)
    let body ← if ended then pure .nothing else list n
    if (← seesBare) = some "esac" then
      skip
      return [(ps, body)]
    operator ";;"
    return (ps, body) :: (← cases n)

end

/-- The commands of the next line that has any, and the tokens behind it. -/
def line? (ts : Tokens) : Except Fault (Option (Command × Tokens)) :=
  let ts := ts.dropWhile fun t => t.1 matches .newline
  let read : Part Command := do
    let c ← lineCommands (4 * ts.length + 8)
    match ← peek with
    | (.newline, _) | (.finish, _) => return c
    | _ => unexpected
  match ts with
  | [] | (.finish, _) :: _ => .ok none
  | ts => (read.run ts).map some
where
  /-- The commands up to the end of the line. -/
  lineCommands : Nat → Part Command
    | 0 => unexpected
    | n + 1 => do
      let c ← andOr n
      let more (c : Command) : Part Command := do
        skip
        match ← peek with
        | (.newline, _) | (.finish, _) => return c
        | _ => return .next c (← lineCommands n)
      if ← sees ";" then more c
      else if ← sees "&" then more (.async c)
      else return c

end BuildLine.Shell.Grammar
