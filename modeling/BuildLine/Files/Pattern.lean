import BuildLine.Files.Tree
import BuildLine.Text.Occurrence

/-!
# Patterns for files

A pattern is a path whose names may hold wildcards: `*` for any run of characters, `?` for one
character, and a set of characters in brackets. A name that is `**` stands for any number of
directories, none included; it does not go through links. A pattern that ends in a slash finds
directories only, and since a search keeps files only, it finds nothing.

The set in brackets is read with care, since it has a grammar of its own: a hyphen between two
characters makes a range, an exclamation mark in front turns the set into its complement, and a
range whose ends are the wrong way round is empty and vanishes together with its ends.
-/

namespace BuildLine.Files

open Text

namespace Pattern

/-! ### Names with wildcards -/

/-- A part of a set of characters. -/
inductive Range where
  /-- All characters from `a` to `b`. -/
  | span (a b : Char)
  deriving DecidableEq, Repr

/-- A part of a name with wildcards. -/
inductive Glyph where
  /-- The character itself. -/
  | exact (c : Char)
  /-- Any character. -/
  | anyOne
  /-- Any run of characters. -/
  | anyRun
  /-- A character of a set, or one that is not in it. -/
  | oneOf (complement : Bool) (ranges : List Range)
  deriving DecidableEq, Repr

/-- The character lies in the range. -/
def Range.holds : Range → Char → Bool
  | .span a b, c => a.toNat ≤ c.toNat && c.toNat ≤ b.toNat

/-- The character may stand for the glyph, which stands for one character. -/
def Glyph.holds : Glyph → Char → Bool
  | .exact d, c => c = d
  | .anyOne, _ => true
  | .anyRun, _ => true
  | .oneOf complement ranges, c => complement != ranges.any fun r => r.holds c

/-- The ends of a text, from the whole text to the empty one. -/
def endings : List Char → List (List Char)
  | [] => [[]]
  | c :: s => (c :: s) :: endings s

/-- The glyphs stand for the text. -/
def matchesGlyphs : List Glyph → List Char → Bool
  | [], s => s.isEmpty
  | .anyRun :: gs, s => (endings s).any (matchesGlyphs gs)
  | g :: gs, s =>
    match s with
    | [] => false
    | c :: s => g.holds c && matchesGlyphs gs s

/-! ### Sets of characters -/

/-- What is left of a set while it is read: a character, or a hyphen that makes a range. -/
inductive Mark where
  /-- A character. -/
  | char (c : Char)
  /-- A hyphen between the ends of a range. -/
  | dash
  deriving DecidableEq, Repr

/-- Cut the body of a set at the hyphens that make ranges. A hyphen does so if there is a character
before it that is not the end of a range, so after a hyphen the next two characters are passed
over; `pass` counts them down. -/
def cutRanges (pass : Nat) (chunk : List Char) : List Char → List (List Char)
  | [] => [chunk.reverse]
  | c :: s =>
    match pass with
    | 0 => if c = '-' then chunk.reverse :: cutRanges 2 [] s else cutRanges 0 (c :: chunk) s
    | pass + 1 => cutRanges pass (c :: chunk) s

/-- A hyphen at the very end makes no range and belongs to the set. -/
def keepLastHyphen : List (List Char) → List (List Char)
  | [] => []
  | [c, []] => [c ++ ['-']]
  | c :: cs => c :: keepLastHyphen cs

/-- Drop the ranges whose ends are the wrong way round, from the last to the first. -/
def dropEmptyRanges : List (List Char) → List (List Char)
  | [] => []
  | c :: cs =>
    match dropEmptyRanges cs with
    | [] => [c]
    | d :: ds =>
      match c.getLast?, d with
      | some a, b :: rest => if b.toNat < a.toNat then (c.dropLast ++ rest) :: ds else c :: d :: ds
      | _, _ => c :: d :: ds

/-- The chunks with the hyphens between them again. -/
def marksOf : List (List Char) → List Mark
  | [] => []
  | [c] => c.map .char
  | c :: cs => c.map .char ++ .dash :: marksOf cs

/-- The ranges that marks spell. -/
def rangesOf : List Mark → List Range
  | .char a :: .dash :: .char b :: ms => .span a b :: rangesOf ms
  | .char a :: ms => .span a a :: rangesOf ms
  | .dash :: ms => .span '-' '-' :: rangesOf ms
  | [] => []

/-- The marks of the body of a set. An exclamation mark in front is no part of the first range. -/
def setMarks (body : List Char) : List Mark :=
  match body with
  | [] => []
  | c :: s =>
    if body.contains '-' then
      let pass := if c = '!' then 1 else 0
      marksOf (dropEmptyRanges (keepLastHyphen (cutRanges pass [c] s)))
    else body.map .char

/-- The set that a body stands for. Nothing is in the empty set. -/
def setGlyph (body : List Char) : Glyph :=
  match setMarks body with
  | .char '!' :: ms => .oneOf true (rangesOf ms)
  | ms => .oneOf false (rangesOf ms)

/-- The body of a set at the front of a text, and what follows the closing bracket. A closing
bracket right at the start of the set, or right after its exclamation mark, belongs to the set. -/
def setBody? (s : List Char) : Option (List Char × List Char) :=
  let mark := s.takeWhile (· = '!') |>.take 1
  let t := s.drop mark.length
  let first := t.takeWhile (· = ']') |>.take 1
  let u := t.drop first.length
  (cutFirst? ']' u).map fun r => (mark ++ first ++ r.1, r.2)

/-- The glyphs of a name. A bracket that is never closed means itself. The fuel is the length of
the name. -/
def glyphsFrom : Nat → List Char → List Glyph
  | 0, _ => []
  | _, [] => []
  | n + 1, c :: s =>
    if c = '*' then .anyRun :: glyphsFrom n s
    else if c = '?' then .anyOne :: glyphsFrom n s
    else if c = '[' then
      match setBody? s with
      | some (body, rest) => setGlyph body :: glyphsFrom n rest
      | none => .exact c :: glyphsFrom n s
    else .exact c :: glyphsFrom n s

/-- The glyphs of a name. -/
def glyphs (name : List Char) : List Glyph :=
  glyphsFrom name.length name

/-! ### Patterns -/

/-- A name of a pattern. -/
inductive Part where
  /-- The name itself. -/
  | literal (name : String)
  /-- Any name that the glyphs stand for. -/
  | wild (glyphs : List Glyph)
  /-- Any number of directories. -/
  | anyDepth
  deriving DecidableEq, Repr

end Pattern

/-- A pattern for files. -/
structure Pattern where
  /-- The names. -/
  parts : List Pattern.Part
  /-- Only directories are found. -/
  dirsOnly : Bool
  deriving DecidableEq, Repr

namespace Pattern

/-- Why a text is no pattern. -/
inductive Fault where
  /-- It is empty. -/
  | empty
  /-- It begins at the root of the file system. -/
  | absolute
  /-- It holds no name. -/
  | noNames
  /-- It holds no name but ends in a slash. -/
  | onlySlash
  /-- Two stars are a part of a name. -/
  | starsInName
  deriving DecidableEq, Repr

/-- The wording of a fault. -/
def Fault.message : Fault → String
  | .empty => "Unacceptable pattern: ''"
  | .absolute => "Non-relative patterns are unsupported"
  | .noNames => "tuple index out of range"
  | .onlySlash => "'_TerminatingSelector' object has no attribute 'select_from'"
  | .starsInName => "Invalid pattern: '**' can only be an entire path component"

/-- The name holds a wildcard. -/
def isWild (name : List Char) : Bool :=
  name.any fun c => c = '*' || c = '?' || c = '['

/-- Two stars stand somewhere in the name. -/
def holdsStars (name : List Char) : Bool :=
  occurs ['*', '*'] name

/-- The part that a name of a pattern stands for. -/
def part (name : String) : Except Fault Part :=
  let cs := name.toList
  if cs = ['*', '*'] then .ok .anyDepth
  else if holdsStars cs then .error .starsInName
  else if isWild cs then .ok (.wild (glyphs cs))
  else .ok (.literal name)

/-- **The pattern that a text spells.** -/
def parse (s : String) : Except Fault Pattern := do
  if s.isEmpty then throw .empty
  if s.startsWith "/" then throw .absolute
  let dirsOnly := s.endsWith "/"
  let parts ← (Written.namesOf s).mapM part
  if parts.isEmpty then throw (if dirsOnly then .onlySlash else .noNames)
  return { parts, dirsOnly }

/-! ### Searching -/

/-- The paths that the parts of a pattern lead to from `path`, which like them is seen from `base`.
Every part but the last has to lead to a directory, and so has the last if only directories are
wanted. -/
def select (t : Tree) (base : List String) (dirsOnly : Bool) :
    List Part → List String → List (List String)
  | [], path => [path]
  | .literal n :: ps, path =>
    let next := path ++ [n]
    let found :=
      if ps.isEmpty && !dirsOnly then t.exists? (base ++ next) else t.isDir (base ++ next)
    if found then select t base dirsOnly ps next else []
  | .wild gs :: ps, path =>
    let names := (t.children (base ++ path)).filter fun n => matchesGlyphs gs n.toList
    names.flatMap fun n =>
      let next := path ++ [n]
      if (ps.isEmpty && !dirsOnly) || t.isDir (base ++ next) then select t base dirsOnly ps next
      else []
  | .anyDepth :: ps, path =>
    (path :: (t.dirsBelow (base ++ path)).map (path ++ ·)).flatMap (select t base dirsOnly ps)

/-- **The files that a pattern finds,** seen from `base` and in order. -/
def search (p : Pattern) (t : Tree) (base : List String) : List String :=
  if t.isDir base then
    let found := (select t base p.dirsOnly p.parts []).filter fun path => t.isFile (base ++ path)
    (found.map (String.intercalate "/")).eraseDups.mergeSort fun a b => decide (a ≤ b)
  else []

end Pattern

end BuildLine.Files
