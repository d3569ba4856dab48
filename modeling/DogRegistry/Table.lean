import DogRegistry.RowId
import DogRegistry.Text.Split

/-!
# Tables

A table is a header and rows of cells.  Its text form has a line for the header and one for every
row, with commas between the cells and nothing escaped.

## Main definitions

* `Table` — a header and rows.
* `Table.toText`, `Table.parse` — the text form and its reader, which skips blank lines.
* `Table.nextRowId?` — the identifier of the row that comes next.

## Main results

* `Table.lineText_lineCells` — cutting a line into cells loses nothing.
-/

namespace DogRegistry

open Text

/-- A table. -/
structure Table where
  /-- The names of the columns. -/
  header : List String
  /-- The rows, from the oldest to the newest. -/
  rows : List (List String) := []
  deriving DecidableEq, Repr, Inhabited

/-- What keeps a text from being a table. -/
inductive TableError
  /-- Every line is blank. -/
  | missingHeader
  deriving DecidableEq, Repr

/-- The wording of the error. -/
def TableError.message : TableError → String
  | missingHeader => "table text has no header line"

namespace Table

/-- The line of a row. -/
def lineText (cells : List String) : String :=
  ",".intercalate cells

/-- The cells of a line. -/
def lineCells (line : String) : List String :=
  splitAtChar ',' line

/-- The text form of a table. -/
def toText (t : Table) : String :=
  "\n".intercalate ((t.header :: t.rows).map lineText)

/-- Reads the text form of a table: the header is the first line that is not blank, the rows are the
others. -/
def parse (text : String) : Except TableError Table :=
  match (splitAtChar '\n' text).filter fun line => !isBlankText line with
  | [] => .error .missingHeader
  | header :: rows => .ok ⟨lineCells header, rows.map lineCells⟩

/-- The position of a column, blanks around its name in the header not counting. -/
def columnIndex? (t : Table) (column : String) : Option Nat :=
  t.header.findIdx? fun h => trim h == column

/-- The newest row. -/
def lastRow? (t : Table) : Option (List String) :=
  t.rows.getLast?

/-- The identifier in the first cell of the newest row, if there is one. -/
def lastRowId? (t : Table) : Option RowId := do
  let row ← t.lastRow?
  let cell ← row.head?
  RowId.parse? cell

/-- The identifier that follows the one in the newest row, or the first one if there is none.  There
is no result behind the largest identifier. -/
def nextRowId? (t : Table) : Option RowId :=
  match t.lastRowId? with
  | some id => id.next?
  | none => some .first

/-- The table with one more row. -/
def push (t : Table) (row : List String) : Table :=
  { t with rows := t.rows ++ [row] }

@[simp] theorem header_push (t : Table) (row : List String) : (t.push row).header = t.header := rfl

@[simp] theorem rows_push (t : Table) (row : List String) :
    (t.push row).rows = t.rows ++ [row] := rfl

@[simp] theorem lineText_lineCells (line : String) : lineText (lineCells line) = line :=
  intercalate_splitAtChar ',' line

end Table

end DogRegistry
