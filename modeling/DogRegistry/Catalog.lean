import DogRegistry.Text.LowerCase

/-!
# The catalog

The registry has two tables: the owners, and the dogs, which are numbered by the registry, are
unique by name and owner, and are indexed by breed.

## Main definitions

* `TableName` — the two tables, with `TableName.resolve?` for the names they go by.
* `UniqueConstraint` — a rule that no two rows agree on certain columns.
* `Schema`, `TableName.schema` — what the catalog knows of a table.

## Main results

* `TableName.resolve?_label` — a table goes by its own name.
-/

namespace DogRegistry

open Text

/-! ### Table names -/

/-- The tables of the registry. -/
inductive TableName
  /-- The owners of dogs. -/
  | owners
  /-- The dogs. -/
  | dogs
  deriving DecidableEq, Repr, Inhabited

namespace TableName

/-- The tables in the order in which they are listed. -/
def all : List TableName := [owners, dogs]

/-- The written name of a table. -/
def label : TableName → String
  | owners => "owners"
  | dogs => "dogs"

/-- The table that goes by the given name, in any case; both have Spanish names besides. -/
def resolve? (name : String) : Option TableName :=
  match lowerCase name with
  | "owners" | "duenos" | "dueños" => some owners
  | "dogs" | "perros" => some dogs
  | _ => none

end TableName

/-! ### Uniqueness -/

/-- A column that takes part in a uniqueness constraint. -/
structure UniqueColumn where
  /-- The position of the column. -/
  index : Nat
  /-- Whether texts that differ in case only count as equal. -/
  ignoreCase : Bool
  deriving DecidableEq, Repr

/-- `c.agree a b` says the cells `a` and `b` count as equal in the column `c`. -/
def UniqueColumn.agree (c : UniqueColumn) (a b : String) : Bool :=
  if c.ignoreCase then lowerCase a == lowerCase b else a == b

/-- A rule that no two rows of a table agree on all of some columns. -/
structure UniqueConstraint where
  /-- The name of the rule. -/
  name : String
  /-- The columns that are compared. -/
  columns : List UniqueColumn
  deriving DecidableEq, Repr

/-- `u.conflicts row candidate` says `candidate` agrees with the stored row `row` on every column of
the rule.  Blanks around stored cells are dropped; a row that lacks a column agrees with none. -/
def UniqueConstraint.conflicts (u : UniqueConstraint) (row candidate : List String) : Bool :=
  u.columns.all fun c =>
    match row[c.index]?, candidate[c.index]? with
    | some existing, some value => c.agree (trim existing) value
    | _, _ => false

/-! ### Schemas -/

/-- What the catalog knows of a table. -/
structure Schema where
  /-- The table. -/
  name : TableName
  /-- The columns a new table has. -/
  columns : List String
  /-- Whether the registry itself fills the first column, with row identifiers. -/
  autoIncrement : Bool
  /-- The rules every inserted row has to meet. -/
  unique : List UniqueConstraint
  /-- The column that is indexed, if one is. -/
  indexColumn : Option Nat
  deriving DecidableEq, Repr

namespace Schema

/-- The columns whose values an insertion supplies. -/
def inputColumns (s : Schema) : List String :=
  if s.autoIncrement then s.columns.tail else s.columns

/-- The position of a column. -/
def columnIndex? (s : Schema) (column : String) : Option Nat :=
  s.columns.findIdx? (· == column)

end Schema

/-- No two dogs of one owner have the same name, in any case. -/
def dogsNameOwner : UniqueConstraint where
  name := "dogs_name_owner"
  columns := [⟨2, true⟩, ⟨3, false⟩]

/-- What the catalog knows of a table. -/
def TableName.schema : TableName → Schema
  | .owners => ⟨.owners, ["owner_id", "owner_name"], false, [], none⟩
  | .dogs =>
    ⟨.dogs, ["dog_id", "breed", "dog_name", "owner_id"], true, [dogsNameOwner], some 1⟩

/-- The table that is indexed. -/
def indexedTable : TableName := .dogs

theorem TableName.resolve?_label (t : TableName) : resolve? t.label = some t := by
  cases t <;> decide +kernel

@[simp] theorem TableName.schema_name (t : TableName) : t.schema.name = t := by
  cases t <;> rfl

end DogRegistry
