import DogRegistry.Catalog
import DogRegistry.Table

/-!
# Stores

A store holds the content of both tables.  It can be written as one text for every table and loaded
from such texts under any names the tables go by.

## Main definitions

* `Store` — the content of the registry.
* `Store.initial` — the content it starts with.
* `Store.texts`, `Store.load` — the text of every table, and the reader of such texts.
* `StoreError` — why texts cannot be loaded.
-/

namespace DogRegistry

/-- The content of the registry. -/
structure Store where
  /-- The owners. -/
  owners : Table
  /-- The dogs. -/
  dogs : Table
  deriving DecidableEq, Repr, Inhabited

namespace Store

/-- The content of a table. -/
def table (s : Store) : TableName → Table
  | .owners => s.owners
  | .dogs => s.dogs

/-- The store with one more row in a table. -/
def push (s : Store) (row : List String) : TableName → Store
  | .owners => { s with owners := s.owners.push row }
  | .dogs => { s with dogs := s.dogs.push row }

/-- The store without rows. -/
def empty : Store where
  owners := { header := TableName.owners.schema.columns }
  dogs := { header := TableName.dogs.schema.columns }

/-- The store with three owners and three dogs. -/
def initial : Store where
  owners :=
    { header := TableName.owners.schema.columns
      rows := [["1", "Juan Perez"], ["2", "Maria Garcia"], ["3", "Carlos Lopez"]] }
  dogs :=
    { header := TableName.dogs.schema.columns
      rows := [["101", "Labrador", "Buddy", "1"], ["102", "Beagle", "Luna", "2"],
        ["103", "Bulldog", "Rocky", "1"]] }

@[simp] theorem table_push_self (s : Store) (row : List String) (t : TableName) :
    (s.push row t).table t = (s.table t).push row := by
  cases t <;> rfl

theorem table_push_of_ne (s : Store) (row : List String) {t u : TableName} (h : u ≠ t) :
    (s.push row t).table u = s.table u := by
  cases t <;> cases u <;> simp_all [push, table]

/-- The texts of the tables, in the order of their names. -/
def texts (s : Store) : List (String × String) :=
  [TableName.dogs, TableName.owners].map fun t => (t.label, (s.table t).toText)

end Store

/-! ### Loading -/

/-- Why texts cannot be loaded. -/
inductive StoreError
  /-- No table goes by this name. -/
  | unknownTable (name : String)
  /-- The text under this name is no table. -/
  | invalidTable (name : String) (cause : TableError)
  /-- Two texts are given for this table. -/
  | duplicateTable (table : TableName)
  /-- No text is given for this table. -/
  | missingTable (table : TableName)
  deriving DecidableEq, Repr

/-- The wording of the error. -/
def StoreError.message : StoreError → String
  | unknownTable name => s!"unknown table: {name}"
  | invalidTable name cause => s!"invalid table '{name}': {cause.message}"
  | duplicateTable table => s!"snapshot holds table {table.label} more than once"
  | missingTable table => s!"snapshot is missing table: {table.label}"

/-- The tables that have been loaded so far. -/
structure PartialStore where
  /-- The owners, once they are loaded. -/
  owners : Option Table := none
  /-- The dogs, once they are loaded. -/
  dogs : Option Table := none
  deriving DecidableEq, Repr

namespace PartialStore

/-- The table, once it is loaded. -/
def table? (p : PartialStore) : TableName → Option Table
  | .owners => p.owners
  | .dogs => p.dogs

/-- The tables with one more. -/
def add (p : PartialStore) (table : Table) : TableName → PartialStore
  | .owners => { p with owners := some table }
  | .dogs => { p with dogs := some table }

/-- Loads one text under a name. -/
def load (p : PartialStore) (name text : String) : Except StoreError PartialStore :=
  match TableName.resolve? name with
  | none => .error (.unknownTable name)
  | some t =>
    match Table.parse text with
    | .error e => .error (.invalidTable name e)
    | .ok table =>
      if (p.table? t).isSome then .error (.duplicateTable t) else .ok (p.add table t)

/-- The store of all tables, if none is missing. -/
def toStore (p : PartialStore) : Except StoreError Store :=
  match p.owners, p.dogs with
  | none, _ => .error (.missingTable .owners)
  | some _, none => .error (.missingTable .dogs)
  | some owners, some dogs => .ok ⟨owners, dogs⟩

end PartialStore

/-- Loads a store from pairs of a name and a text, in their order. -/
def Store.load (tables : List (String × String)) : Except StoreError Store := do
  let p ← tables.foldlM (fun (p : PartialStore) t => p.load t.1 t.2) {}
  p.toStore

end DogRegistry
