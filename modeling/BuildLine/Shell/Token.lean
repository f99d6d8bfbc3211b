import BuildLine.Shell.Program
import BuildLine.Text.Split

/-!
# Tokens

The text of a program is a list of tokens: words, operators and ends of lines. A word ends at a
blank or an operator that is not quoted. Quotes keep characters from meaning anything; between
double quotes the dollar sign, the back quote and the backslash keep their meaning.

A text that a program carries within itself, below the line that uses it, is read together with the
operator that announces it.
-/

namespace BuildLine.Shell

/-- A token. -/
inductive Token where
  /-- A word, and its text if no part of it is quoted or stands for something. -/
  | word (w : Word) (bare : Option String)
  /-- An operator. -/
  | operator (s : String)
  /-- The number of the port that the next operator is about. -/
  | port (n : Nat)
  /-- A text within the program. -/
  | here (body : Word)
  /-- The end of a line. -/
  | newline
  /-- The end of the program. -/
  | finish
  /-- Something that is no token. -/
  | broken (message : String)

namespace Token

/-- The blanks between words. -/
def isBlank (c : Char) : Bool :=
  c = ' ' || c = '\t'

/-- The characters that operators are made of. -/
def isOperatorChar (c : Char) : Bool :=
  [';', '&', '|', '<', '>', '(', ')'].contains c

/-- The operators, longer ones before those that they start with. -/
def operators : List String :=
  ["<<-", "&&", "||", ";;", "<<", ">>", "<&", ">&", "<>", ">|", "&", "|", ";", "<", ">", "(", ")"]

/-- The operator that a text starts with. -/
def operator? (s : List Char) : Option (String × List Char) :=
  (operators.find? fun o => o.toList.isPrefixOf s).map fun o => (o, s.drop o.length)

/-- The characters that a name may start with. -/
def startsName (c : Char) : Bool :=
  c.isAlpha || c = '_'

/-- The characters of a name. -/
def isNameChar (c : Char) : Bool :=
  startsName c || c.isDigit

/-- The parameters whose name is a single sign. -/
def isSign (c : Char) : Bool :=
  ['@', '*', '#', '?', '-', '$', '!'].contains c

/-- The name of a parameter at the start of a text; numbers in braces may have many digits. -/
def parameterName? (braced : Bool) (s : List Char) : Option (String × List Char) :=
  match s with
  | [] => none
  | c :: rest =>
    if startsName c then
      let (name, rest) := s.span isNameChar
      some (String.ofList name, rest)
    else if c.isDigit then
      if braced then
        let (digits, rest) := s.span Char.isDigit
        some (String.ofList digits, rest)
      else some (String.singleton c, rest)
    else if isSign c then some (String.singleton c, rest)
    else none

/-! ### Bodies in brackets -/

/-- Text up to an unquoted quote character, which is dropped; in double quotes a backslash keeps
the next character. -/
def quotedBody (quote : Char) : List Char → Option (List Char × List Char)
  | [] => none
  | '\\' :: c :: s =>
    if quote = '\'' then
      if c = '\'' then some (['\\'], s)
      else (quotedBody quote s).map fun r => ('\\' :: c :: r.1, r.2)
    else (quotedBody quote s).map fun r => ('\\' :: c :: r.1, r.2)
  | c :: s =>
    if c = quote then some ([], s) else (quotedBody quote s).map fun r => (c :: r.1, r.2)

/-- Text up to the bracket that closes the one before it; brackets in quotes do not count. -/
def bracketBody : Nat → Nat → List Char → Option (List Char × List Char)
  | 0, _, _ => none
  | _, _, [] => none
  | n + 1, depth, c :: s =>
    let keep (taken : List Char) (r : Option (List Char × List Char)) :=
      r.map fun r => (taken ++ r.1, r.2)
    if c = '\\' then
      match s with
      | [] => none
      | d :: s => keep [c, d] (bracketBody n depth s)
    else if c = '\'' || c = '"' then
      match quotedBody c s with
      | none => none
      | some (body, s) => keep (c :: body ++ [c]) (bracketBody n depth s)
    else if c = '(' then keep [c] (bracketBody n (depth + 1) s)
    else if c = ')' then
      match depth with
      | 0 => some ([], s)
      | depth + 1 => keep [c] (bracketBody n depth s)
    else keep [c] (bracketBody n depth s)

/-- The inside of a text that is one pair of brackets. -/
def inBrackets? (s : List Char) : Option (List Char) :=
  match s with
  | '(' :: rest =>
    match bracketBody rest.length 0 rest with
    | some (body, []) => some body
    | _ => none
  | _ => none

/-- A program in back quotes, where backslashes before some characters are dropped once more. -/
def backQuoted : List Char → Option (List Char × List Char)
  | [] => none
  | '\x60' :: s => some ([], s)
  | '\\' :: c :: s =>
    (backQuoted s).map fun r =>
      (if c = '\x60' || c = '\\' || c = '$' then (c :: r.1, r.2) else ('\\' :: c :: r.1, r.2))
  | c :: s => (backQuoted s).map fun r => (c :: r.1, r.2)

/-! ### Words -/

/-- Where pieces stand. -/
inductive Frame where
  /-- In a word. -/
  | word
  /-- Between double quotes. -/
  | double
  /-- Behind the name of a parameter in braces. -/
  | braces (quoted : Bool)
  /-- In a text within the program. -/
  | here
  deriving DecidableEq, Repr

/-- Pieces in the frame are quoted. -/
def Frame.isQuoted : Frame → Bool
  | word => false
  | double | here => true
  | braces q => q

/-- The characters before which a backslash is dropped where pieces are quoted. -/
def isEscapable (f : Frame) (c : Char) : Bool :=
  c = '$' || c = '\x60' || c = '\\' || (c = '"' && f ≠ .here) || (c = '}' && f = .braces true)

/-- A piece of plain or quoted text, put before other pieces. -/
def textBefore (quoted : Bool) (s : List Char) : List Piece → List Piece
  | .plain t :: ps => if quoted then .quoted s :: .plain t :: ps else .plain (s ++ t) :: ps
  | .quoted t :: ps => if quoted then .quoted (s ++ t) :: ps else .plain s :: .quoted t :: ps
  | ps => if quoted then .quoted s :: ps else .plain s :: ps

/-- The letters behind a parameter that say what is put instead. -/
def isInstead (c : Char) : Bool :=
  ['-', '=', '+', '?'].contains c

/-- Pieces with what follows them. -/
abbrev Pieces := Except String (List Piece × List Char)

/-- Put a piece before the pieces of the rest. -/
def before (p : Piece) (rest : Pieces) : Pieces :=
  rest.map fun r => (p :: r.1, r.2)

/-- What stands behind the name of a parameter in braces. `read` reads the pieces up to the brace
that closes it. -/
def use (read : List Char → Pieces) (s : List Char) : Except String (Use × List Char) :=
  let without (atEnd longest : Bool) (s : List Char) :=
    (read s).map fun r => (Use.without atEnd longest r.1, r.2)
  match s with
  | '}' :: s => .ok (.value, s)
  | '%' :: '%' :: s => without true true s
  | '%' :: s => without true false s
  | '#' :: '#' :: s => without false true s
  | '#' :: s => without false false s
  | ':' :: c :: s =>
    if isInstead c then (read s).map fun r => (.instead c true r.1, r.2)
    else if c = '\x7d' then .error "Missing '\x7d'"
    else .error "Bad substitution"
  | [':'] => .error "Missing '\x7d'"
  | c :: s =>
    if isInstead c then (read s).map fun r => (.instead c false r.1, r.2)
    else .error "Bad substitution"
  | [] => .error "Missing '\x7d'"

/-- Read pieces up to the end of the frame. -/
def pieces (f : Frame) : Nat → List Char → Pieces
  | 0, _ => .error "Unterminated quoted string"
  | _, [] =>
    match f with
    | .word | .here => .ok ([], [])
    | .double => .error "Unterminated quoted string"
    | .braces _ => .error "Missing '\x7d'"
  | n + 1, c :: s =>
    let q := f.isQuoted
    let text (t : List Char) (rest : List Char) : Pieces :=
      (pieces f n rest).map fun r => (textBefore q t r.1, r.2)
    if f = .word && (isBlank c || c = '\n' || isOperatorChar c) then .ok ([], c :: s)
    else if f = .double && c = '"' then .ok ([], s)
    else if f matches .braces _ && c = '}' then .ok ([], s)
    else if c = '\'' && !q then
      match quotedBody '\'' s with
      | none => .error "Unterminated quoted string"
      | some (body, s) => before (.quoted body) (pieces f n s)
    else if c = '"' && f ≠ .here then do
      let (inside, s) ← pieces .double n s
      let (rest, s) ← pieces f n s
      return ((if inside.isEmpty then [.quoted []] else inside) ++ rest, s)
    else if c = '\\' then
      match s with
      | [] => text ['\\'] []
      | '\n' :: s => pieces f n s
      | d :: s =>
        if !q then before (.quoted [d]) (pieces f n s)
        else if isEscapable f d then text [d] s
        else text ['\\', d] s
    else if c = '\x60' then
      match backQuoted s with
      | none => .error "EOF in backquote substitution"
      | some (body, s) => before (.output body q) (pieces f n s)
    else if c = '$' then
      match s with
      | '(' :: s =>
        match bracketBody s.length 0 s with
        | none =>
          .error (if s.head? = some '(' then "Missing '))'"
            else "end of file unexpected (expecting \")\")")
        | some (body, s) =>
          match body.head?, inBrackets? body with
          | _, some expression => do
            let (e, _) ← pieces .here n expression
            before (.number e q) (pieces f n s)
          | some '(', none => .error "Missing '))'"
          | _, none => before (.output body q) (pieces f n s)
      | '{' :: '#' :: '}' :: s => before (.parameter "#" .value q) (pieces f n s)
      | '{' :: '#' :: s =>
        match parameterName? true s with
        | some (name, '}' :: s) => before (.parameter name .length q) (pieces f n s)
        | _ => do
          let (u, s) ← use (pieces (.braces q) n) ('#' :: s)
          before (.parameter "#" u q) (pieces f n s)
      | '{' :: s =>
        match parameterName? true s with
        | none => .error (if s.isEmpty then "Missing '\x7d'" else "Bad substitution")
        | some (name, s) => do
          let (u, s) ← use (pieces (.braces q) n) s
          before (.parameter name u q) (pieces f n s)
      | s =>
        match parameterName? false s with
        | some (name, s) => before (.parameter name .value q) (pieces f n s)
        | none => text ['$'] s
    else text [c] s

/-- The text of a word of which no part is quoted or stands for something. -/
def bareText? : Word → Option String
  | [.plain s] => some (String.ofList s)
  | _ => none

/-- The text of a word that nothing is put into, quotes dropped. -/
def literalText (w : Word) : String :=
  String.ofList (w.flatMap fun
    | .plain s | .quoted s => s
    | _ => [])

/-! ### Texts within the program -/

/-- Lines up to the one that ends a text, and what follows it. -/
def hereLines (stripped : Bool) (ending : List Char) :
    List (List Char) → List (List Char) × List (List Char)
  | [] => ([], [])
  | l :: ls =>
    let l := if stripped then l.dropWhile (· = '\t') else l
    if l = ending then ([], ls)
    else
      let (body, rest) := hereLines stripped ending ls
      (l :: body, rest)

/-- The text that the operator before `s` announces, and the program without it. -/
def hereText (stripped : Bool) (s : List Char) : Except String (Word × List Char) := do
  let (ending, rest) ← pieces .word (s.length + 1) (s.dropWhile isBlank)
  let (line, below) := rest.span (· ≠ '\n')
  let lines := if below.length < 2 then [] else Text.splitAt '\n' (below.drop 1)
  let (body, below) := hereLines stripped (literalText ending).toList lines
  let text := body.flatMap fun l => l ++ ['\n']
  let word ← match ending with
    | [.plain _] => (pieces .here (text.length + 1) text).map Prod.fst
    | _ => .ok [.quoted text]
  return (word, line ++ '\n' :: Text.joinWith ['\n'] below)

/-! ### All tokens -/

/-- The number of lines that were left between two texts, the second of which ends the first. -/
def linesBetween (s rest : List Char) : Nat :=
  (s.take (s.length - rest.length)).count '\n'

/-- **The tokens of a program,** each with its line. -/
def tokensFrom : Nat → Nat → List Char → List (Token × Nat)
  | 0, line, _ => [(.finish, line)]
  | _, line, [] => [(.finish, line)]
  | n + 1, line, c :: s =>
    if isBlank c then tokensFrom n line s
    else if c = '\n' then (.newline, line) :: tokensFrom n (line + 1) s
    else if c = '#' then tokensFrom n line (s.dropWhile (· ≠ '\n'))
    else
      match c, s with
      | '\\', '\n' :: s => tokensFrom n (line + 1) s
      | _, _ =>
        let (digits, behind) := (c :: s).span Char.isDigit
        if !digits.isEmpty && (behind.head? = some '<' || behind.head? = some '>') then
          (.port ((String.ofList digits).toNat?.getD 0), line) :: tokensFrom n line behind
        else
          match operator? (c :: s) with
          | some (o, rest) =>
            if o = "<<" || o = "<<-" then
              match hereText (o = "<<-") rest with
              | .ok (body, rest) => (.here body, line) :: tokensFrom n line rest
              | .error e => [(.broken e, line)]
            else (.operator o, line) :: tokensFrom n line rest
          | none =>
            match pieces .word (s.length + 2) (c :: s) with
            | .ok (w, rest) =>
              (.word w (bareText? w), line) :: tokensFrom n (line + linesBetween (c :: s) rest) rest
            | .error e => [(.broken e, line + s.count '\n')]

/-- The tokens of a program. -/
def all (s : List Char) : List (Token × Nat) :=
  tokensFrom (2 * s.length + 1) 1 s

end Token

end BuildLine.Shell
