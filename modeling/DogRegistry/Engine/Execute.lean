import DogRegistry.Engine.Record
import DogRegistry.Index.Build

/-!
# Executing submissions

A submission is a text of statements, which are executed one after the other, each tuple by tuple.
Each tuple sees the rows that were stored before it, and what is rejected undoes none of them.
Whenever the indexed table has gained a row, its index is built anew.

## Main definitions

* `Store.insertRow` — checks one tuple and stores it.
* `Engine` — the settings of the index, known to be valid.
* `Progress` — what has been done so far, with `Progress.andThen` for what is done next.
* `Engine.insertTuple`, `Engine.executeStatement` — one tuple, and one statement.
* `Engine.execute` — a whole submission.
* `Engine.rebuildIndex` — the index over a store.
-/

namespace DogRegistry

open Text

/-! ### Rows -/

/-- The columns for which a row of table `t` has to bring values: those of the catalog where the
registry numbers the rows, and those of the stored header elsewhere. -/
def Store.expectedColumns (s : Store) (t : TableName) : List String :=
  if t.schema.autoIncrement then t.schema.inputColumns else (s.table t).header

/-- The row that is stored for some values when the registry assigns the identifier `id` to it. -/
def numberedRow (id : Option RowId) (values : List String) : List String :=
  match id with
  | some id => id.toText :: values
  | none => values

/-- The row that is compared with stored ones, with an empty first cell where the identifier is
going to be. -/
def candidateRow (t : TableName) (values : List String) : List String :=
  if t.schema.autoIncrement then "" :: values else values

/-- The first constraint of table `t` that a row violates. -/
def Store.violated? (s : Store) (t : TableName) (candidate : List String) :
    Option UniqueConstraint :=
  t.schema.unique.find? fun u => (s.table t).rows.any fun row => u.conflicts row candidate

/-- The identifier that the next row of table `t` is given, which is `none` where the registry does
not number the rows. -/
def Store.assignId (s : Store) (t : TableName) : Except Rejection (Option RowId) :=
  if t.schema.autoIncrement then
    match (s.table t).nextRowId? with
    | some id => .ok (some id)
    | none => .error (.exhausted t)
  else
    .ok none

/-- Checks a tuple and stores it: its number of values first, then the uniqueness constraints, then
whether an identifier is left. -/
def Store.insertRow (s : Store) (t : TableName) (values : List String) :
    Except Rejection (Store × Option RowId) :=
  if values.length ≠ (s.expectedColumns t).length then
    .error (.arity t (s.expectedColumns t) values.length)
  else
    match s.violated? t (candidateRow t values) with
    | some u => .error (.duplicate t u (candidateRow t values))
    | none =>
      match s.assignId t with
      | .error e => .error e
      | .ok id => .ok (s.push (numberedRow id values) t, id)

/-- The command that a tuple is reported under. -/
def insertCommand (t : TableName) (values : List String) : String :=
  s!"INSERT INTO {t.label} VALUES " ++ InsertStatement.tupleText values

/-! ### The engine -/

/-- An interpreter of submissions. -/
structure Engine where
  /-- The settings of every index it builds. -/
  config : IndexConfig
  /-- The settings are valid. -/
  valid : config.Valid
  deriving DecidableEq, Repr

/-- What tuples and statements leave behind. -/
structure Progress where
  /-- The store with the rows that were stored. -/
  store : Store
  /-- The last index that was built, if one was. -/
  index : Option Tree := none
  /-- An entry for every tuple, and for every statement that is rejected as a whole. -/
  records : List Record := []
  /-- How many rows were stored. -/
  applied : Nat := 0
  deriving DecidableEq, Repr

namespace Progress

/-- What a statement leaves behind that is rejected as a whole. -/
def rejected (s : Store) (statement : String) (cause : Rejection) : Progress :=
  { store := s, records := [.ofRejection statement cause] }

/-- What is left behind by `p` and then, in the store of `p`, by `q`. -/
def andThen (p q : Progress) : Progress :=
  ⟨q.store, q.index <|> p.index, p.records ++ q.records, p.applied + q.applied⟩

end Progress

/-- What a submission changes. -/
structure Execution where
  /-- An entry for every attempt. -/
  records : List Record
  /-- The new store, if a row was stored. -/
  store : Option Store
  /-- The index to use from now on, if a row was stored. -/
  index : Option Tree
  deriving DecidableEq, Repr

namespace Execution

/-- How many rows were stored. -/
def successCount (x : Execution) : Nat :=
  (x.records.filter Record.success).length

/-- How many attempts failed. -/
def failureCount (x : Execution) : Nat :=
  x.records.length - x.successCount

/-- The identifiers that were assigned, in order. -/
def assignedIds (x : Execution) : List RowId :=
  x.records.filterMap Record.assignedId

end Execution

namespace Engine

/-- The engine with the given settings, if they are valid. -/
def ofConfig (config : IndexConfig) : Except InvalidOrder Engine :=
  if h : config.Valid then .ok ⟨config, h⟩ else .error ⟨config.order⟩

/-- The engine with the default settings. -/
def default : Engine :=
  ⟨{}, IndexConfig.valid_default⟩

/-- The index over the rows of the indexed table that have an identifier and a key. -/
def rebuildIndex (e : Engine) (s : Store) : Tree :=
  match indexedTable.schema.indexColumn with
  | none => Tree.empty e.config
  | some column =>
    Tree.ofCells e.config <| (s.table indexedTable).rows.filterMap fun row => do
      let id ← row.head?
      let key ← row[column]?
      return (id, key)

/-- Tries to store a tuple, after what has been done for the tuples in front of it. -/
def insertTuple (e : Engine) (t : TableName) (p : Progress) (values : List String) : Progress :=
  match p.store.insertRow t values with
  | .error cause => { p with records := p.records ++ [.ofRejection (insertCommand t values) cause] }
  | .ok (s, id) =>
    { store := s
      index := if t.schema.indexColumn.isSome then some (e.rebuildIndex s) else p.index
      records := p.records ++ [.ofRow (insertCommand t values) t id]
      applied := p.applied + 1 }

/-- Executes one statement. -/
def executeStatement (e : Engine) (s : Store) (statement : String) : Progress :=
  match InsertStatement.parse (trim statement) with
  | .error cause => .rejected s (trim statement) (.malformed cause)
  | .ok parsed =>
    match TableName.resolve? parsed.table with
    | none => .rejected s (trim statement) (.unknownTable parsed.table)
    | some t => parsed.tuples.foldl (e.insertTuple t) { store := s }

/-- Executes a statement, after what has been done for the statements in front of it. -/
def executeNext (e : Engine) (p : Progress) (statement : String) : Progress :=
  p.andThen (e.executeStatement p.store statement)

/-- Executes a submission.  The store and the index of the result are there if at least one row was
stored; an index that was not built anew is the one that was passed in. -/
def execute (e : Engine) (s : Store) (index : Tree) (submission : String) : Execution :=
  let p := (statements submission).foldl e.executeNext { store := s }
  if 0 < p.applied then ⟨p.records, some p.store, some (p.index.getD index)⟩
  else ⟨p.records, none, none⟩

end Engine

end DogRegistry
