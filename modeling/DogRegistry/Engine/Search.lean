import DogRegistry.Engine.Execute
import DogRegistry.Index.Trace
import DogRegistry.LabeledRow

/-!
# Searching by breed

A search looks a term up in the index and then picks the rows whose identifiers it found.

## Main definitions

* `SearchResult` — identifiers, rows and the trace of the look-up.
* `search term index store` — the search itself.
-/

namespace DogRegistry

open Text

/-- What a search finds. -/
structure SearchResult where
  /-- The identifiers stored under the term. -/
  rowIds : List RowId
  /-- The rows with these identifiers, in the order of the table. -/
  rows : List LabeledRow
  /-- The steps of the look-up. -/
  trace : List TraceStep
  deriving DecidableEq, Repr

/-- `hasId ids row` says the first cell of `row` is an identifier in `ids`. -/
def hasId (ids : List RowId) (row : List String) : Bool :=
  match row.head?.bind RowId.parse? with
  | some id => ids.contains id
  | none => false

/-- Searches for a term, blanks around it not counting. -/
def search (term : String) (index : Tree) (store : Store) : SearchResult :=
  let outcome := index.search (trim term)
  let table := store.table indexedTable
  ⟨outcome.rowIds, (table.rows.filter (hasId outcome.rowIds)).map (LabeledRow.ofRow table.header),
    outcome.trace⟩

end DogRegistry
