import DogRegistry.Index.Tree
import DogRegistry.Text.Split

/-!
# Building an index

An index is never patched: it is built anew from the rows of a table.  A row counts if its first
cell is a row identifier and its key cell is not blank.

## Main definitions

* `indexEntry? id key` — the entry that two cells stand for.
* `Tree.ofCells config rows` — the index over pairs of identifier cell and key cell.
* `Tree.ofTableText config text` — the index over the text of a table whose second column is the
  key.
-/

namespace DogRegistry

open Text

/-- The entry that an identifier cell and a key cell stand for.  Blanks around both are dropped. -/
def indexEntry? (id key : String) : Option (String × RowId) :=
  if isBlankText key then none else (RowId.parse? id).map (trim key, ·)

/-- The index over pairs of identifier cell and key cell, in their order. -/
def Tree.ofCells (config : IndexConfig) (rows : List (String × String)) : Tree :=
  ofEntries config (rows.filterMap fun row => indexEntry? row.1 row.2)

/-- The first two cells of a row, if it has two. -/
def leadingCells? : List String → Option (String × String)
  | id :: key :: _ => some (id, key)
  | _ => none

/-- The index over the text of a table: a header line, then a row on every line that is not blank.
Blanks at the two ends of the text are dropped first. -/
def Tree.ofTableText (config : IndexConfig) (text : String) : Tree :=
  let lines := (splitAtChar '\n' (trim text)).tail.filter fun line => !isBlankText line
  ofCells config (lines.filterMap fun line => leadingCells? (splitAtChar ',' line))

end DogRegistry
