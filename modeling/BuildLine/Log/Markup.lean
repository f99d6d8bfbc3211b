import BuildLine.Text.Folded

/-!
# Echoes

A command is echoed before it runs, on a screen whose texts may hold tags in brackets. The command
is escaped so that nothing in it is taken for a tag. The escape knows the tags that start with a
lower-case letter or one of `# / @`, the screen also knows those that start with a bracket; so a
tag of the second kind is lost from the echo, as is a backslash before a bracket that starts no tag,
and a backslash at the end shows twice.
-/

namespace BuildLine.Log.Markup

open Text

/-- The characters that a tag of a text may start with, where `more` are allowed too. -/
def startsTag (more : List Char) (c : Char) : Bool :=
  c.isLower || ['#', '/', '@'].contains c || more.contains c

/-- The body of the tag that a text opens, brackets included, and what follows it. The first
character behind the bracket has to be one that starts tags. -/
def tag? (more : List Char) : List Char → Option (List Char × List Char)
  | '[' :: c :: s =>
    if startsTag more c then
      match s.span (fun d => d ≠ ']' && d ≠ '[') with
      | (body, ']' :: rest) => some ('[' :: c :: body ++ [']'], rest)
      | _ => none
    else none
  | _ => none

/-- Put backslashes before what could be taken for a tag: as many again as there are, and one. -/
def escapeFrom : Nat → List Char → List Char
  | 0, s => s
  | _, [] => []
  | n + 1, s =>
    let (slashes, rest) := s.span (· = '\\')
    match tag? [] rest with
    | some (tag, rest) => slashes ++ slashes ++ '\\' :: tag ++ escapeFrom n rest
    | none =>
      match rest with
      | [] => slashes
      | c :: rest => slashes ++ c :: escapeFrom n rest

/-- The text with everything escaped that could be taken for a tag. A single backslash at the end
is doubled, so that it does not escape what follows. -/
def escape (s : List Char) : List Char :=
  let t := escapeFrom s.length s
  match t.reverse with
  | '\\' :: '\\' :: _ => t
  | '\\' :: _ => t ++ ['\\']
  | _ => t

/-- The text without the backslashes before brackets. -/
def openBrackets : List Char → List Char
  | '\\' :: '[' :: s => '[' :: openBrackets s
  | c :: s => c :: openBrackets s
  | [] => []

/-- What a screen shows of a text with tags: escaped tags without the escape, other tags not at
all. The plain text that was read since the last tag is `plain`. -/
def shownFrom (plain : List Char) : Nat → List Char → List Char
  | 0, _ => openBrackets plain
  | _, [] => openBrackets plain
  | n + 1, s =>
    let (slashes, rest) := s.span (· = '\\')
    match tag? ['['] rest with
    | some (tag, rest) =>
      let kept := if slashes.length % 2 = 1 then tag else []
      openBrackets plain ++ List.replicate (slashes.length / 2) '\\' ++ kept ++ shownFrom [] n rest
    | none =>
      match rest with
      | [] => openBrackets (plain ++ slashes)
      | c :: rest => shownFrom (plain ++ slashes ++ [c]) n rest

/-- What a screen shows of a text with tags. -/
def shown (s : List Char) : List Char :=
  shownFrom [] s.length s

/-- The control characters that a screen drops. -/
def isDropped (c : Char) : Bool :=
  [7, 8, 11, 12, 13].contains c.toNat

/-- The width of the screen. -/
def screenWidth : Nat := 80

/-- **The echo of a command.** -/
def echo (command : String) : String :=
  String.ofList (folded screenWidth
    (('$' :: ' ' :: shown (escape command.toList)).filter (!isDropped ·)))

end BuildLine.Log.Markup
