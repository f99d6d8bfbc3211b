import BuildLine.Text.Printable

/-!
# Quoted literals

A text between quotes, in one line and free of invisible characters: what a message shows when it
names a value that somebody gave it. The quote is `'`, or `"` when that saves escapes, that is when
the text holds `'` and no `"`. The quote and the backslash are escaped by a backslash; new line,
carriage return and tab have their letters; every other character that is not printable is written
by its code in two, four or eight hexadecimal digits.
-/

namespace BuildLine.Text.Quoted

/-- The hexadecimal digits of `n`, in lower case and at least `width` of them. -/
def hex (width n : Nat) : List Char :=
  let ds := Nat.toDigits 16 n
  List.replicate (width - ds.length) '0' ++ ds

/-- The escape of a character that is not printable. -/
def codeEscape (n : Nat) : List Char :=
  if n < 0x100 then '\\' :: 'x' :: hex 2 n
  else if n < 0x10000 then '\\' :: 'u' :: hex 4 n
  else '\\' :: 'U' :: hex 8 n

/-- One character of a literal with the given quote. -/
def encodeChar (quote c : Char) : List Char :=
  if c = quote || c = '\\' then ['\\', c]
  else if c = '\n' then ['\\', 'n']
  else if c = '\r' then ['\\', 'r']
  else if c = '\t' then ['\\', 't']
  else if isPrintable c then [c]
  else codeEscape c.toNat

/-- The quote a text gets. -/
def quoteFor (s : List Char) : Char :=
  if s.contains '\'' && !s.contains '"' then '"' else '\''

/-- What stands between the quotes. -/
def encodeBody (quote : Char) (s : List Char) : List Char :=
  s.flatMap (encodeChar quote)

/-- The literal of a text. -/
def encode (s : List Char) : List Char :=
  let quote := quoteFor s
  quote :: encodeBody quote s ++ [quote]

/-- The literal of a string. -/
def literal (s : String) : String :=
  String.ofList (encode s.toList)

end BuildLine.Text.Quoted
