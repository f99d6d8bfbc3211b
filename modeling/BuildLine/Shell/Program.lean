/-!
# Shell programs

A program is made of commands, and a command of words. A word is a list of pieces, some of which
stand for something that is put in their place when the command runs: the value of a parameter, the
output of another program, or a number. A piece that was quoted is never split or matched against
files.
-/

namespace BuildLine.Shell

mutual

/-- A piece of a word. -/
inductive Piece where
  /-- Text that was not quoted. -/
  | plain (s : List Char)
  /-- Text that was quoted. -/
  | quoted (s : List Char)
  /-- The value of a parameter. -/
  | parameter (name : String) (use : Use) (quoted : Bool)
  /-- The output of a program. -/
  | output (source : List Char) (quoted : Bool)
  /-- The number that an expression comes to. -/
  | number (expression : List Piece) (quoted : Bool)

/-- What is made of the value of a parameter. -/
inductive Use where
  /-- The value. -/
  | value
  /-- Its length. -/
  | length
  /-- Another word, depending on whether the parameter is set: the letter says in which case, and
  what else is done. Where `orEmpty`, an empty value counts as none. -/
  | instead (letter : Char) (orEmpty : Bool) (word : List Piece)
  /-- The value without what a pattern matches at its start or end. -/
  | without (atEnd longest : Bool) (pattern : List Piece)

end

/-- A word. -/
abbrev Word := List Piece

/-- What a redirection does. -/
inductive Redirection where
  /-- Read from a file. -/
  | read
  /-- Write to a file that starts empty. -/
  | write
  /-- Write to the end of a file. -/
  | append
  /-- Use the same port as another number. -/
  | same
  /-- Read a text that is part of the program. -/
  | here
  deriving DecidableEq, Repr

/-- Give a port a new meaning while a command runs. -/
structure Redirect where
  /-- The number of the port. -/
  port : Nat
  /-- What is done with it. -/
  kind : Redirection
  /-- With what. -/
  target : Word

/-- A command. -/
inductive Command where
  /-- Nothing. -/
  | nothing
  /-- Set variables, or run what the first word names with them. -/
  | simple (line : Nat) (settings : List (String × Word)) (words : List Word)
      (redirects : List Redirect)
  /-- Run commands side by side, each reading what the one before it writes. -/
  | pipe (negated : Bool) (commands : List Command)
  /-- Run the second command if the first one passed. -/
  | both (a b : Command)
  /-- Run the second command if the first one failed. -/
  | either (a b : Command)
  /-- Run one command after the other. -/
  | next (a b : Command)
  /-- Run a command without waiting for it. -/
  | async (c : Command)
  /-- Run a command in a shell of its own. -/
  | subshell (c : Command)
  /-- Run a command with ports changed. -/
  | redirected (c : Command) (redirects : List Redirect)
  /-- Run the first of the commands whose condition passes, or the last one. -/
  | choose (branches : List (Command × Command)) (last : Command)
  /-- Run a command again and again as long as a condition passes, or fails. -/
  | loop (untilPasses : Bool) (condition body : Command)
  /-- Run a command for every word, or for every parameter. -/
  | each (name : String) (words : Option (List Word)) (body : Command)
  /-- Run the first of the commands one of whose patterns matches a word. -/
  | select (line : Nat) (word : Word) (cases : List (List Word × Command))
  /-- Give a command a name. -/
  | define (name : String) (body : Command)

instance : Inhabited Command := ⟨.nothing⟩

/-- Why a text is no program. -/
structure Fault where
  /-- The line where it was found. -/
  line : Nat
  /-- The wording. -/
  message : String
  deriving DecidableEq, Repr

end BuildLine.Shell
