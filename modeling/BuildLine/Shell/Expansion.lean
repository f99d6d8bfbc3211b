import BuildLine.Files.Pattern
import BuildLine.Shell.Arithmetic
import BuildLine.Shell.Machine
import BuildLine.Text.Blank

/-!
# Expansion

What words come to when a command runs. The pieces of a word are expanded to characters that
remember whether they were quoted and whether they come from a parameter. Characters from a
parameter that are separators split a word into fields; wildcards that are not quoted are matched
against files; then the quotes are forgotten.
-/

namespace BuildLine.Shell.Expansion

open Files Act

/-- A part of an expanded word. -/
inductive Atom where
  /-- A character. -/
  | char (c : Char) (quoted fromParameter : Bool)
  /-- Something quoted that is empty. -/
  | mark
  /-- The border between two parameters. -/
  | border
  deriving DecidableEq, Repr

/-- A field: characters, and whether they were quoted. -/
abbrev Field := List (Char × Bool)

/-- The text of a field. -/
def fieldText (f : Field) : String :=
  String.ofList (f.map Prod.fst)

/-- A text as atoms. -/
def atomsOf (quoted fromParameter : Bool) (s : String) : List Atom :=
  if quoted && s.isEmpty then [.mark] else s.toList.map fun c => .char c quoted fromParameter

/-! ### Patterns -/

/-- The pattern that a field is: what was quoted stands for itself. -/
def glyphs (f : Field) : List Pattern.Glyph :=
  Pattern.glyphs (f.flatMap fun (c, quoted) =>
    if quoted && (c = '*' || c = '?' || c = '[') then ['[', c, ']'] else [c])

/-- The field has wildcards. -/
def isWild (f : Field) : Bool :=
  f.any fun (c, quoted) => !quoted && (c = '*' || c = '?' || c = '[')

/-- A field cut at the slashes. -/
def fieldNames : Field → List Field
  | [] => [[]]
  | (c, q) :: f =>
    match fieldNames f with
    | [] => []
    | n :: ns => if c = '/' then [] :: n :: ns else ((c, q) :: n) :: ns

/-- The names of a directory that a field without slashes matches. Names that start with a dot,
among them those of the directory itself and of the one above it, are matched only by a dot. -/
def matchingNames (t : Tree) (base : List String) (f : Field) : List String :=
  let dotted := f.head?.any fun e => e.1 = '.'
  ("." :: ".." :: t.children base).filter fun n =>
    (dotted || !n.startsWith ".") && Pattern.matchesGlyphs (glyphs f) n.toList

/-- The paths that fields between slashes match, each written behind `written`. -/
def matchingPaths (t : Tree) (base : List String) (written : String) : List Field → List String
  | [] => []
  | [f] =>
    if isWild f then (matchingNames t base f).map (written ++ ·)
    else
      let name := fieldText f
      if ["", ".", ".."].contains name || t.exists? (base ++ [name]) then [written ++ name] else []
  | f :: fs =>
    let names := if isWild f then matchingNames t base f else [fieldText f]
    names.flatMap fun n =>
      let inner := if n.isEmpty || n = "." then base
        else if n = ".." then base.dropLast
        else base ++ [n]
      if t.isDir inner then matchingPaths t inner (written ++ n ++ "/") fs else []

/-- The paths that a field matches, in order, or its text if there are none. -/
def paths (t : Tree) (here : Place) (f : Field) : List String :=
  let base := if f.head?.any fun e => e.1 = '/' then [] else here
  let found := if isWild f then matchingPaths t base "" (fieldNames f) else []
  if found.isEmpty then [fieldText f] else found.mergeSort fun a b => decide (a ≤ b)

/-! ### Fields -/

/-- Fields under construction. -/
structure Splitting where
  /-- The fields that are finished. -/
  fields : List Field := []
  /-- The field that grows. -/
  current : Option Field := none
  /-- The last field was ended by a blank. -/
  afterBlank : Bool := false

/-- Finish the field that grows. -/
def Splitting.finish (s : Splitting) : Splitting :=
  match s.current with
  | some f => { s with fields := s.fields ++ [f], current := none }
  | none => s

/-- Take an atom. The separators are those of `separators`; the blanks among them count once however
many there are. -/
def Splitting.take (separators : List Char) (s : Splitting) : Atom → Splitting
  | .mark => { s with current := some (s.current.getD []), afterBlank := false }
  | .border => s.finish
  | .char c quoted fromParameter =>
    if !quoted && fromParameter && separators.contains c then
      if c.isWhitespace then { s.finish with afterBlank := s.afterBlank || s.current.isSome }
      else if s.afterBlank then { s with afterBlank := false }
      else { s with fields := s.fields ++ [s.current.getD []], current := none }
    else { s with current := some (s.current.getD [] ++ [(c, quoted)]), afterBlank := false }

/-- The fields that atoms make. -/
def split (separators : List Char) (atoms : List Atom) : List Field :=
  (atoms.foldl (Splitting.take separators) {}).finish.fields

/-- The field that atoms make where nothing is split. -/
def joined (atoms : List Atom) : Field :=
  atoms.filterMap fun
    | .char c quoted _ => some (c, quoted)
    | .border => some (' ', false)
    | .mark => none

/-! ### Parameters -/

/-- The separators of fields. -/
def separators : Act (List Char) := do
  return ((← valueOf? "IFS").getD " \t\n").toList

/-- The value of a parameter that has one. -/
def parameter (name : String) : Act (Option String) := do
  let p ← process
  match name with
  | "?" => return some (toString p.status)
  | "$" => return some (toString p.programNumber)
  | "!" => return p.lastJob.map toString
  | "#" => return some (toString p.parameters.length)
  | "-" => return some (String.ofList p.options)
  | "0" => return some p.name
  | "@" | "*" =>
    return if p.parameters.isEmpty then none else some (String.intercalate " " p.parameters)
  | name =>
    match name.toNat? with
    | some n => return p.parameters[n - 1]?
    | none => valueOf? name

/-- The parameters of the program, as atoms: quoted they stay apart or are joined by the first
separator. -/
def parameterList (name : String) (quoted : Bool) : Act (List Atom) := do
  let ps := (← process).parameters
  if quoted && name = "*" then
    let sep := match ← separators with
      | c :: _ => String.singleton c
      | [] => ""
    return atomsOf true true (String.intercalate sep ps)
  else return (ps.map (atomsOf quoted true)).intersperse [.border] |>.flatten

/-- Complain and exit. -/
def refuse (message : String) : Act α := do
  complain message
  throw (.exit 2)

/-- The start or the end of a text that a pattern matches, cut off. -/
def cutMatch (atEnd longest : Bool) (f : Field) (s : List Char) : List Char :=
  let lengths := List.range (s.length + 1)
  let lengths := if longest then lengths.reverse else lengths
  let part (n : Nat) := if atEnd then s.drop (s.length - n) else s.take n
  match lengths.find? fun n => Pattern.matchesGlyphs (glyphs f) (part n) with
  | some n => if atEnd then s.take (s.length - n) else s.drop n
  | none => s

/-! ### Words -/

/-- The output of a program, without the ends of lines at its end. -/
def outputOf (rec : Runner) (source : List Char) : Act String := do
  let n ← newStream {}
  let ports := (← process).ports.filter fun e => e.1 ≠ 1
  let fate ← fork (fun p => { p with ports := ports ++ [(1, .toStream n)] })
    (rec (.lines (Token.all source)))
  change fun p => { p with clock := max p.clock fate.ended, status := fate.status }
  succumb
  let octets := (← streamOf n).chunks.flatMap Prod.snd
  let text := Text.Utf8.repair (octets.filter (· ≠ 0))
  return String.ofList (Text.trimRight (· = '\n') text)

/-- The number that an expression comes to, once the variables that it sets are set. -/
def number (s : String) : Act Int := do
  let p ← process
  let values (name : String) : Option String :=
    (p.vars.find? fun v => v.name = name).bind Variable.value
  match Arithmetic.evaluate values s.toList with
  | .ok (n, settings) => do
    for (name, value) in settings do
      setVariable name value
    return n
  | .error f => refuse (f.message s)

mutual

/-- What pieces come to. -/
def atoms (rec : Runner) : List Piece → Act (List Atom)
  | [] => return []
  | p :: ps => do
    let a ← atomsOfPiece rec p
    return a ++ (← atoms rec ps)

/-- What a piece comes to. -/
def atomsOfPiece (rec : Runner) : Piece → Act (List Atom)
  | .plain s => return s.map fun c => .char c false false
  | .quoted s => return if s.isEmpty then [.mark] else s.map fun c => .char c true false
  | .output source quoted => do return atomsOf quoted true (← outputOf rec source)
  | .number e quoted => do
    let n ← number (fieldText (joined (← atoms rec e)))
    return atomsOf quoted true (toString n)
  | .parameter name u quoted => atomsOfUse rec name quoted u

/-- What is made of the value of a parameter. -/
def atomsOfUse (rec : Runner) (name : String) (quoted : Bool) : Use → Act (List Atom)
  | .value => do
    if name = "@" || name = "*" then parameterList name quoted
    else match ← parameter name with
      | some s => return atomsOf quoted true s
      | none =>
        if (← process).options.contains 'u' then refuse (name ++ ": parameter not set")
        else return atomsOf quoted true ""
  | .length => do
    let s := (← parameter name).getD ""
    return atomsOf quoted true (toString s.utf8ByteSize)
  | .instead letter orEmpty w => do
    let value := (← parameter name).filter fun s => !(orEmpty && s.isEmpty)
    match letter, value with
    | '+', none => return if quoted then [.mark] else []
    | '+', some _ => atoms rec w
    | _, some _ =>
      if name = "@" || name = "*" then parameterList name quoted
      else return atomsOf quoted true (value.getD "")
    | '-', none => atoms rec w
    | '=', none => do
      let s := fieldText (joined (← atoms rec w))
      setVariable name s
      return atomsOf quoted true s
    | _, none => do
      let s := fieldText (joined (← atoms rec w))
      let default := "parameter not set" ++ if orEmpty then " or null" else ""
      refuse (name ++ ": " ++ if s.isEmpty then default else s)
  | .without atEnd longest w => do
    let f := joined (← atoms rec w)
    let s := (← parameter name).getD ""
    return atomsOf quoted true (String.ofList (cutMatch atEnd longest f s.toList))

end

/-- A word whose first piece stands for the home directory. -/
def atHome (w : Word) : Act Word := do
  match w, ← valueOf? "HOME" with
  | .plain ('~' :: s) :: rest, some home =>
    if s.isEmpty || s.head? = some '/' then return .quoted home.toList :: .plain s :: rest
    else return w
  | _, _ => return w

/-- The field that a word comes to where nothing is split. -/
def field (rec : Runner) (w : Word) : Act Field := do
  return joined (← atoms rec (← atHome w))

/-- The text that a word comes to where nothing is split. -/
def text (rec : Runner) (w : Word) : Act String := do
  return fieldText (← field rec w)

/-- The fields that a word comes to. -/
def fields (rec : Runner) (w : Word) : Act (List String) := do
  let fs := split (← separators) (← atoms rec (← atHome w))
  let p ← process
  let t ← tree
  return fs.flatMap fun f => if p.options.contains 'f' then [fieldText f] else paths t p.here f

/-- The fields that words come to. -/
def allFields (rec : Runner) (ws : List Word) : Act (List String) := do
  return (← ws.mapM (fields rec)).flatten

end BuildLine.Shell.Expansion
