import DogRegistry.Text.Split
import DogRegistry.Text.Width

/-!
# Tables drawn with lines

A header and rows in a frame of box-drawing characters.  Every column is as wide as its widest line,
one column at least, with a blank on both sides; the lines of a cell stand one below the other.

## Main definitions

* `BoxTable` — a header and rows.
* `BoxTable.render` — the drawing.
-/

namespace DogRegistry

open Text

/-- A table to be drawn.  A row may be shorter or longer than the header. -/
structure BoxTable where
  /-- The first row, which a double line separates from the others. -/
  header : List String
  /-- The other rows. -/
  rows : List (List String)
  deriving DecidableEq, Repr

namespace BoxTable

/-- A character again and again. -/
def repeated (c : Char) (n : Nat) : String :=
  String.ofList (List.replicate n c)

/-- The lines of a cell. -/
def cellLines (cell : String) : List String :=
  splitAtChar '\n' cell

/-- The width of a cell: that of its widest line. -/
def cellWidth (cell : String) : Nat :=
  ((cellLines cell).map displayWidth).foldl max 0

/-- How many columns the table has. -/
def columnCount (t : BoxTable) : Nat :=
  ((t.header :: t.rows).map List.length).foldl max 0

/-- The width of the column at position `j`, without the blanks beside it. -/
def columnWidth (t : BoxTable) (j : Nat) : Nat :=
  ((t.header :: t.rows).map fun row => (row[j]?.map cellWidth).getD 0).foldl max 1

/-- The widths of all columns. -/
def columnWidths (t : BoxTable) : List Nat :=
  (List.range t.columnCount).map t.columnWidth

/-- The characters of a horizontal rule. -/
structure Rule where
  /-- The left end. -/
  left : Char
  /-- The line itself. -/
  line : Char
  /-- The crossing with the line between two columns. -/
  crossing : Char
  /-- The right end. -/
  right : Char
  deriving DecidableEq, Repr

/-- The rule above the header. -/
def topRule : Rule := ⟨'╭', '─', '┬', '╮'⟩

/-- The rule below the header. -/
def headerRule : Rule := ⟨'╞', '═', '╪', '╡'⟩

/-- The rule between two rows. -/
def rowRule : Rule := ⟨'├', '╌', '┼', '┤'⟩

/-- The rule below the last row. -/
def bottomRule : Rule := ⟨'╰', '─', '┴', '╯'⟩

/-- A horizontal rule across columns of the given widths. -/
def Rule.draw (r : Rule) (widths : List Nat) : String :=
  r.left.toString
    ++ r.crossing.toString.intercalate (widths.map fun w => repeated r.line (w + 2))
    ++ r.right.toString

/-- A line of a cell, filled up to the width of its column, with a blank on both sides. -/
def paddedLine (width : Nat) (line : String) : String :=
  " " ++ line ++ repeated ' ' (width - displayWidth line) ++ " "

/-- The lines of the cells of a row in columns of the given widths.  A cell that is missing is
blank. -/
def rowCells (widths : List Nat) (row : List String) : List (Nat × List String) :=
  widths.zipIdx.map fun w => (w.1, (row[w.2]?.map cellLines).getD [""])

/-- The lines of a row, as many as its highest cell has. -/
def drawRow (widths : List Nat) (row : List String) : List String :=
  let cells := rowCells widths row
  let height := (cells.map fun c => c.2.length).foldl max 0
  (List.range height).map fun i =>
    "│" ++ "┆".intercalate (cells.map fun c => paddedLine c.1 (c.2[i]?.getD "")) ++ "│"

/-- The lines of rows, with a rule between any two of them. -/
def drawRows (widths : List Nat) : List (List String) → List String
  | [] => []
  | [row] => drawRow widths row
  | row :: rows => drawRow widths row ++ rowRule.draw widths :: drawRows widths rows

/-- The drawing of a table, without a line feed at its end. -/
def render (t : BoxTable) : String :=
  let widths := t.columnWidths
  "\n".intercalate <|
    [topRule.draw widths] ++ drawRow widths t.header ++ [headerRule.draw widths]
      ++ drawRows widths t.rows ++ [bottomRule.draw widths]

end BoxTable

end DogRegistry
