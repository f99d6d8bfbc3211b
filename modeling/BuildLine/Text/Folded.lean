import BuildLine.Text.Blank
import BuildLine.Text.Column
import BuildLine.Text.Split

/-!
# Folded lines

A line that is too wide for the screen is folded between words: a word that does not fit behind the
words before it goes to the next line, with the blanks behind it. Only a word that is too wide for
a whole line is cut. Nothing is lost but blanks that stick out at the end of a line.
-/

namespace BuildLine.Text

/-- The words of a line, each with the blanks behind it; the first one also has the blanks before
it. What follows the last word is nothing. -/
def wordsOf (s : List Char) : List (List Char) :=
  let (lead, rest) := s.span isBlank
  match words rest.length rest with
  | [] => []
  | w :: ws => (lead ++ w) :: ws
where
  /-- The words of a line that starts with a word. -/
  words : Nat → List Char → List (List Char)
    | 0, _ => []
    | _, [] => []
    | n + 1, s =>
      let (word, rest) := s.span (!isBlank ·)
      let (blanks, rest) := rest.span isBlank
      (word ++ blanks) :: words n rest

/-- Cut a word into pieces that are no wider than a line. -/
def chop (width : Nat) : List Char → List (List Char)
  | [] => [[]]
  | c :: s => chopFrom [c] (columnsOf c) s
where
  /-- Cut what follows the piece `piece`, which takes `used` columns. -/
  chopFrom (piece : List Char) (used : Nat) : List Char → List (List Char)
    | [] => [piece]
    | c :: s =>
      if width < used + columnsOf c then piece :: chopFrom [c] (columnsOf c) s
      else chopFrom (piece ++ [c]) (used + columnsOf c) s

/-- Lines under construction. -/
structure Folding where
  /-- The lines that are full. -/
  full : List (List Char) := []
  /-- The line that grows. -/
  current : List Char := []

namespace Folding

/-- Start a new line. -/
def newLine (f : Folding) : Folding :=
  if f.current.isEmpty then f else { full := f.full ++ [f.current] }

/-- Put a word behind the others or, if it does not fit there, on a line of its own. -/
def add (width : Nat) (f : Folding) (word : List Char) : Folding :=
  let needed := columns (trimRight isBlank word)
  if columns f.current + needed ≤ width then { f with current := f.current ++ word }
  else if needed ≤ width then { f.newLine with current := word }
  else
    let pieces := chop width word
    { full := f.newLine.full ++ pieces.dropLast, current := pieces.getLast?.getD [] }

end Folding

/-- A line without the blanks that stick out. -/
def cutBlanks (width : Nat) (s : List Char) : List Char :=
  let kept := (trimRight isBlank s).length
  if width < s.length then s.take (max width kept) else s

/-- The lines that a line becomes on a screen of the given width. -/
def foldLine (width : Nat) (s : List Char) : List (List Char) :=
  match wordsOf s with
  | [] => [cutBlanks width s]
  | ws =>
    let f := ws.foldl (Folding.add width) {}
    (f.full ++ [f.current]).map (cutBlanks width)

/-- A line with spaces in the place of tabs: a tab leads to the next multiple of `stop`. -/
def expandTabs (stop : Nat) (s : List Char) : List Char :=
  s.foldl (fun line c =>
    if c = '\t' then line ++ List.replicate (stop - columns line % stop) ' ' else line ++ [c]) []

/-- **The text as it stands on a screen of the given width.** -/
def folded (width : Nat) (s : List Char) : List Char :=
  let lines := (splitAt '\n' s).flatMap fun line => foldLine width (expandTabs 8 line)
  joinWith ['\n'] lines

end BuildLine.Text
