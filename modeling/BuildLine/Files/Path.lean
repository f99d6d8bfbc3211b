import BuildLine.Text.Split

/-!
# Paths

A *place* is an absolute path without detours: the names that lead from the root of the file system
to it. A *written* path is what somebody wrote: it may start at the root or where one happens to
stand, and it may go up by `..`. Empty names and `.` mean nothing in a written path and are dropped.

The *pieces* of a path are what stands between its slashes, empty ones among them. They matter where
the rest of a path is put behind another one before anybody has cleared it up: a rest that starts
with a slash starts at the root.
-/

namespace BuildLine.Files

open Text

/-- The names from the root of the file system. -/
abbrev Place := List String

namespace Place

/-- The text of a place. -/
def text (p : Place) : String :=
  "/" ++ String.intercalate "/" p

/-- Where a piece leads from a place if nobody looks at what stands there. -/
def step (p : Place) (n : String) : Place :=
  if n = "" || n = "." then p else if n = ".." then p.dropLast else p ++ [n]

/-- The place that the pieces of a path from the root spell. Nobody looks at what stands there, so
that a name and `..` behind it cancel out even if the name is a link. -/
def spelled (pieces : List String) : Place :=
  pieces.foldl step []

end Place

/-- The pieces of a path with more pieces put behind it. These stand for themselves if a slash comes
first in their text: the first of them is empty then, and others follow. -/
def joinPieces (path more : List String) : List String :=
  match more with
  | "" :: n :: ns => n :: ns
  | _ => path ++ more

/-- A path as somebody wrote it. -/
structure Written where
  /-- It starts at the root of the file system. -/
  absolute : Bool
  /-- The names, among them `..`. -/
  names : List String
  deriving DecidableEq, Repr

namespace Written

/-- The pieces of a text. -/
def piecesOf (s : String) : List String :=
  (splitAt '/' s.toList).map String.ofList

/-- The names in a text that mean something. -/
def namesOf (s : String) : List String :=
  (piecesOf s).filter fun n => !(n = "" || n = ".")

/-- The path that a text spells. -/
def ofText (s : String) : Written :=
  { absolute := s.startsWith "/", names := namesOf s }

/-- The text of a path. -/
def text (w : Written) : String :=
  let names := String.intercalate "/" w.names
  if w.absolute then "/" ++ names else if names.isEmpty then "." else names

/-- The path seen from another one. -/
def under (base w : Written) : Written :=
  if w.absolute then w else { base with names := base.names ++ w.names }

/-- The path of a place. -/
def ofPlace (p : Place) : Written :=
  { absolute := true, names := p }

/-- The names from the root, where one stands at `here`. -/
def fromRoot (here : Place) (w : Written) : List String :=
  if w.absolute then w.names else here ++ w.names

end Written

end BuildLine.Files
