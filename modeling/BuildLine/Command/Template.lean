import BuildLine.Command.Word
import BuildLine.Text.Word

/-!
# Command templates

A template is a shell command in which a name between braces stands for a value. `fill` puts the
values in, each as one word. It is one pass over the template: a value that was put in is not
looked at again, and braces around anything but a known name stay as they are, so that the braces
of the shell survive. Braces after a dollar sign belong to the shell as well.

Where a placeholder begins, `fill` writes the word at once and then skips the rest of the
placeholder; it carries the number of characters to skip, and whether a dollar sign has just been
read.
-/

namespace BuildLine.Command.Template

open Text

/-- What a name stands for. -/
abbrev Values := List Char → Option (List Char)

/-- The name at the front, if a closing brace follows it. -/
def name? (s : List Char) : Option (List Char) :=
  let name := s.takeWhile isWord
  if name.isEmpty then none
  else match s.dropWhile isWord with
    | '}' :: _ => some name
    | _ => none

/-- What the placeholder behind an opening brace stands for, and the number of characters from
there to its end. -/
def placeholder? (values : Values) (s : List Char) : Option (List Char × Nat) := do
  let name ← name? s
  let v ← values name
  return (Word.encode v, name.length + 1)

/-- The template with its placeholders filled, from a place where `skip` characters belong to a
placeholder that has been filled. -/
def fillFrom (values : Values) : Nat → Bool → List Char → List Char
  | _, _, [] => []
  | skip + 1, _, _ :: s => fillFrom values skip false s
  | 0, dollar, c :: s =>
    if c = '{' && !dollar then
      match placeholder? values s with
      | some (w, n) => w ++ fillFrom values n false s
      | none => c :: fillFrom values 0 false s
    else c :: fillFrom values 0 (c = '$') s

/-- **The command a template stands for.** -/
def fill (values : Values) (template : List Char) : List Char :=
  fillFrom values 0 false template

/-- Values given in a list. -/
def valuesOf (ps : List (String × Option String)) : Values := fun name =>
  ((ps.lookup (String.ofList name)).join).map String.toList

/-- The command a template stands for, as a string. -/
def render (ps : List (String × Option String)) (template : String) : String :=
  String.ofList (fill (valuesOf ps) template.toList)

end BuildLine.Command.Template
