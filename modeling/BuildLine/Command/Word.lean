/-!
# Words of a command line

A text as one word of a shell command. A text of safe characters stands as it is; any other text,
the empty one too, stands between single quotes, where every character but the quote means itself.
A quote is written by leaving the quotes, putting it between double quotes, and coming back.
-/

namespace BuildLine.Command.Word

/-- Letters, digits and the marks that mean nothing to a shell. -/
def isSafe (c : Char) : Bool :=
  c.isAlphanum || ['_', '@', '%', '+', '=', ':', ',', '.', '/', '-'].contains c

/-- One character between single quotes. -/
def quoteChar (c : Char) : List Char :=
  if c = '\'' then ['\'', '"', '\'', '"', '\''] else [c]

/-- The text as one word. -/
def encode (s : List Char) : List Char :=
  if !s.isEmpty && s.all isSafe then s
  else '\'' :: s.flatMap quoteChar ++ ['\'']

end BuildLine.Command.Word
