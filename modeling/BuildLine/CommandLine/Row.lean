import BuildLine.Text.Blank

/-!
# Rows

Something told in two columns, a label and a detail, in a row of fixed width with an edge behind it.
What does not fit is cut.
-/

namespace BuildLine.CommandLine

/-- The width of a row without its edge. -/
def rowWidth : Nat := 75

/-- The width of the column of labels. -/
def labelWidth : Nat := 30

/-- The text with spaces behind it, cut to a width. -/
def fitted (width : Nat) (s : String) : String :=
  String.ofList ((s.toList ++ List.replicate width ' ').take width)

/-- **A row.** A label that is blank has no bar behind it. -/
def row (label detail : String) : String :=
  let bar := if (Text.trim label.toList).isEmpty then "" else "|"
  let cells := [fitted labelWidth label, bar, fitted (rowWidth - labelWidth) detail]
  String.ofList ((String.intercalate " " cells).toList.take rowWidth) ++ " ┃"

end BuildLine.CommandLine
