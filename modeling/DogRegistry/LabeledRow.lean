import DogRegistry.Text.Blank

/-!
# Labelled rows

A row together with the names of its columns, the way search results show it.

## Main definitions

* `LabeledRow` — pairs of a column name and a value.
* `LabeledRow.ofRow header row` — pairs the names in a header with the cells of a row.
* `LabeledRow.get?` — the value in a column.

## Main results

* `LabeledRow.ofRow_eq` — the pairs by their positions.
-/

namespace DogRegistry

open Text

/-- A row as pairs of a column name and a value, in the order of the columns. -/
structure LabeledRow where
  /-- The pairs. -/
  pairs : List (String × String)
  deriving DecidableEq, Repr, Inhabited

namespace LabeledRow

/-- Pairs the names in a header with the cells of a row, both without the blanks around them.  A row
that is too short has empty values at its end; the cells of one that is too long are left out. -/
def ofRow : (header row : List String) → LabeledRow
  | header, row => ⟨go header row⟩
where
  /-- The pairs from one column on. -/
  go : List String → List String → List (String × String)
    | [], _ => []
    | column :: columns, [] => (trim column, "") :: go columns []
    | column :: columns, cell :: cells => (trim column, trim cell) :: go columns cells

/-- The names of the columns. -/
def columns (r : LabeledRow) : List String :=
  r.pairs.map Prod.fst

/-- The values. -/
def values (r : LabeledRow) : List String :=
  r.pairs.map Prod.snd

/-- The value in the first column of that name. -/
def get? (r : LabeledRow) (column : String) : Option String :=
  r.pairs.lookup column

/-- Every column of the header has its trimmed name, and the trimmed cell at its position or the
empty text. -/
theorem ofRow_eq (header row : List String) :
    ofRow header row =
      ⟨header.mapIdx fun i column => (trim column, (row[i]?.map trim).getD "")⟩ := by
  rw [ofRow, mk.injEq]
  induction header generalizing row with
  | nil => rfl
  | cons column columns ih =>
    cases row with
    | nil => simp [ofRow.go, ih, List.mapIdx_cons]
    | cons cell cells => simp [ofRow.go, ih, List.mapIdx_cons]

end LabeledRow

end DogRegistry
