/-!
# Texts and keys of TOML

The smallest parts of a TOML document: blanks and comments, the four forms of quoted text, and
dotted keys. A part is read from the front of the remaining characters, and what comes after it is
handed back with it.

A basic text is read by a small automaton, one character a step: it stands in plain text, after a
backslash, inside the code of a character, or on the way over the blanks that a backslash at the
end of a line removes. That keeps the reader structural, although an escape may be ten characters
long.
-/

namespace BuildLine.Toml

/-- Why a document cannot be read. -/
inductive Fault where
  /-- The text is not TOML. -/
  | malformed
  /-- An integer has too many decimal digits to be read. -/
  | longInteger (digits : Nat)
  deriving DecidableEq, Repr

/-- Where a part was found, and what is left. -/
abbrev Reading (α : Type) := Except Fault (α × List Char)

/-- A dotted key, with at least one name. -/
abbrev Key := List String

/-- A blank inside a line. -/
def isSpace (c : Char) : Bool := c == ' ' || c == '\t'

/-- A blank or the end of a line. -/
def isSpaceOrLine (c : Char) : Bool := isSpace c || c == '\n'

/-- A control character, which may not stand in a text or comment; the tab may. -/
def isControl (c : Char) : Bool := (c.toNat < 32 || c.toNat == 127) && c != '\t'

/-- A character of a key without quotes. -/
def isBare (c : Char) : Bool := (c.isAlphanum || c == '-' || c == '_') && c.toNat < 128

/-- The rest of the line from after a `#`, which must be free of control characters. -/
def skipComment (s : List Char) : Except Fault (List Char) :=
  match s with
  | '#' :: r =>
    if (r.takeWhile (· != '\n')).any isControl then .error .malformed
    else .ok (r.dropWhile (· != '\n'))
  | _ => .ok s

/-! ### Quoted texts -/

/-- The value of a hexadecimal digit. -/
def hexDigit? (c : Char) : Option Nat :=
  if c.isDigit then some (c.toNat - 48)
  else if 'a' ≤ c && c ≤ 'f' then some (c.toNat - 87)
  else if 'A' ≤ c && c ≤ 'F' then some (c.toNat - 55)
  else none

/-- The character that a letter after a backslash stands for. -/
def escape? (c : Char) : Option Char :=
  [('b', '\x08'), ('t', '\t'), ('n', '\n'), ('f', '\x0c'), ('r', '\r'), ('"', '"'),
    ('\\', '\\')].lookup c

/-- The scalar with a code. -/
def scalar? (n : Nat) : Option Char :=
  if h : n.isValidChar then some (Char.ofNatAux n h) else none

/-- Where the reader of a basic text stands. -/
inductive Mode where
  /-- In plain text. -/
  | plain
  /-- After a backslash. -/
  | escape
  /-- In the code of a character: digits still to come, value so far. -/
  | code (left value : Nat)
  /-- After a backslash and blanks, before the end of the line. -/
  | lineEnd
  /-- On the blanks and empty lines after such a line. -/
  | skip
  deriving DecidableEq, Repr

/-- The mode in which the next character is read: skipping ends at the first character that is
neither blank nor the end of a line. -/
def Mode.at (m : Mode) (c : Char) : Mode :=
  match m with
  | .skip => if isSpaceOrLine c then .skip else .plain
  | m => m

/-- Up to two quotes directly before the three that close a text of several lines belong to it. -/
def closeMultiline (quote : Char) (s : List Char) : List Char × List Char :=
  match s with
  | a :: b :: r =>
    if a = quote then if b = quote then ([quote, quote], r) else ([quote], b :: r) else ([], s)
  | [a] => if a = quote then ([quote], []) else ([], s)
  | [] => ([], s)

/-- Put a character in front of what is read. -/
def consText (c : Char) (r : Reading (List Char)) : Reading (List Char) :=
  r.map fun p => (c :: p.1, p.2)

/-- The body of a basic text, of one line or of several, and what follows its closing quotes. -/
def basicBody (multiline : Bool) : Mode → List Char → Reading (List Char)
  | _, [] => .error .malformed
  | m, c :: r =>
    match m.at c with
    | .plain =>
      if c = '"' then
        if !multiline then .ok ([], r)
        else match r with
          | '"' :: '"' :: r' => .ok (closeMultiline '"' r')
          | _ => consText c (basicBody multiline .plain r)
      else if c = '\\' then basicBody multiline .escape r
      else if isControl c && !(multiline && c == '\n') then .error .malformed
      else consText c (basicBody multiline .plain r)
    | .escape =>
      if c = 'u' then basicBody multiline (.code 4 0) r
      else if c = 'U' then basicBody multiline (.code 8 0) r
      else if multiline && isSpace c then basicBody multiline .lineEnd r
      else if multiline && c == '\n' then basicBody multiline .skip r
      else match escape? c with
        | some e => consText e (basicBody multiline .plain r)
        | none => .error .malformed
    | .code left value =>
      match hexDigit? c with
      | none => .error .malformed
      | some d =>
        let value := 16 * value + d
        if 1 < left then basicBody multiline (.code (left - 1) value) r
        else match scalar? value with
          | some e => consText e (basicBody multiline .plain r)
          | none => .error .malformed
    | .lineEnd =>
      if isSpace c then basicBody multiline .lineEnd r
      else if c = '\n' then basicBody multiline .skip r
      else .error .malformed
    | .skip => basicBody multiline .skip r

/-- The body of a literal text of one line, and what follows its closing quote. -/
def literalBody : List Char → Reading (List Char)
  | [] => .error .malformed
  | '\'' :: r => .ok ([], r)
  | c :: r => if isControl c then .error .malformed else consText c (literalBody r)

/-- The body of a literal text of several lines, and what follows its closing quotes. -/
def literalLines : List Char → Reading (List Char)
  | [] => .error .malformed
  | '\'' :: '\'' :: '\'' :: r => .ok (closeMultiline '\'' r)
  | c :: r =>
    if isControl c && c != '\n' then .error .malformed else consText c (literalLines r)

/-- A line end directly after the opening quotes does not belong to the text. -/
def dropFirstLineEnd : List Char → List Char
  | '\n' :: r => r
  | s => s

/-- A quoted text of one line. -/
def lineText? (s : List Char) : Option (Reading String) :=
  let read (r : Reading (List Char)) := r.map fun p => (String.ofList p.1, p.2)
  match s with
  | '"' :: r => some (read (basicBody false .plain r))
  | '\'' :: r => some (read (literalBody r))
  | _ => none

/-- A quoted text in any of the four forms. -/
def text? (s : List Char) : Option (Reading String) :=
  let read (r : Reading (List Char)) := r.map fun p => (String.ofList p.1, p.2)
  match s with
  | '"' :: '"' :: '"' :: r => some (read (basicBody true .plain (dropFirstLineEnd r)))
  | '\'' :: '\'' :: '\'' :: r => some (read (literalLines (dropFirstLineEnd r)))
  | _ => lineText? s

/-! ### Keys -/

/-- One name of a key: bare, or a quoted text of one line. -/
def keyName (s : List Char) : Reading String :=
  match s.takeWhile isBare with
  | [] => (lineText? s).getD (.error .malformed)
  | name => .ok (String.ofList name, s.dropWhile isBare)

/-- Names with dots and blanks between them. The number bounds how many names follow the first. -/
def keyNames : Nat → List Char → Except Fault (Key × List Char)
  | 0, _ => .error .malformed
  | n + 1, s => do
    let (name, r) ← keyName s
    match r.dropWhile isSpace with
    | '.' :: r =>
      let (names, r) ← keyNames n (r.dropWhile isSpace)
      return (name :: names, r)
    | r => return ([name], r)

/-- A dotted key, with the blanks after it. Every name takes a character at least, so the length of
the text bounds their number. -/
def key (s : List Char) : Reading Key :=
  keyNames (s.length + 1) s

end BuildLine.Toml
