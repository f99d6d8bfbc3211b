import BuildLine.Text.CodeRange

/-!
# Blanks

White space in the wide sense: the ASCII blanks, the four information separators, and the spaces
and line separators of Unicode. `trim` takes it off both ends.
-/

namespace BuildLine.Text

/-- White space of Unicode, with the ASCII information separators. -/
def blankRanges : CodeRanges :=
  [(0x9, 0xd), (0x1c, 0x20), (0x85, 0x85), (0xa0, 0xa0), (0x1680, 0x1680), (0x2000, 0x200a),
   (0x2028, 0x2029), (0x202f, 0x202f), (0x205f, 0x205f), (0x3000, 0x3000)]

/-- White space in the wide sense. -/
def isBlank (c : Char) : Bool :=
  blankRanges.covers c.toNat

/-- The text without the leading characters that `p` holds of. -/
def trimLeft (p : Char → Bool) (s : List Char) : List Char :=
  s.dropWhile p

/-- The text without the trailing characters that `p` holds of. -/
def trimRight (p : Char → Bool) (s : List Char) : List Char :=
  (s.reverse.dropWhile p).reverse

/-- The text without blanks at either end. -/
def trim (s : List Char) : List Char :=
  trimRight isBlank (trimLeft isBlank s)

end BuildLine.Text
