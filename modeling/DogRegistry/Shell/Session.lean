import DogRegistry.Shell.Snapshot

/-!
# Sessions

A session holds the current store and index.  It adopts what a submission returns and keeps the
snapshot file up to date.

## Main definitions

* `Session` — the current state.
* `Session.start` — the state of the snapshot file, or the initial one.
* `Session.execute`, `Session.reset`, `Session.save`, `Session.exportTable` — what a session does.
-/

namespace DogRegistry

/-- The current state of the registry. -/
structure Session where
  /-- The interpreter of submissions. -/
  engine : Engine
  /-- The current store. -/
  store : Store
  /-- The current index. -/
  index : Tree
  /-- The snapshot file, if there is one. -/
  dataFile : Option String
  /-- Whether the snapshot is written after every submission that stores a row. -/
  autosave : Bool
  deriving DecidableEq, Repr

/-- What a submission returns. -/
structure Submission where
  /-- What the submission changed. -/
  execution : Execution
  /-- Why the snapshot could not be written, if that failed. -/
  saveError : Option ShellError
  deriving DecidableEq, Repr

namespace Session

/-- The session with a store and the index over it. -/
def ofStore (engine : Engine) (store : Store) (dataFile : Option String) (autosave : Bool) :
    Session :=
  ⟨engine, store, engine.rebuildIndex store, dataFile, autosave⟩

/-- The session with the store and the index that a submission returns, as far as there are any. -/
def adopt (s : Session) (x : Execution) : Session :=
  { s with store := x.store.getD s.store, index := x.index.getD s.index }

variable {m : Type → Type} [Monad m] [MonadFiles m]

/-- Opens a session on a snapshot file; without one, or if it does not exist, the session starts
with the initial store. -/
def start (config : IndexConfig) (dataFile : Option String) (autosave : Bool) :
    m (Except ShellError Session) := do
  match Engine.ofConfig config with
  | .error e => return .error (.invalidOrder e)
  | .ok engine =>
    match dataFile with
    | none => return .ok (ofStore engine .initial dataFile autosave)
    | some path =>
      match ← Snapshot.load path with
      | .error e => return .error e
      | .ok store => return .ok (ofStore engine (store.getD .initial) dataFile autosave)

/-- Writes the snapshot file and returns its path. -/
def save (s : Session) : m (Except ShellError String) := do
  match s.dataFile with
  | none => return .error .noDataFile
  | some path =>
    match ← Snapshot.save path s.store with
    | .ok () => return .ok path
    | .error e => return .error e

/-- Writes the snapshot file if that is to happen by itself, and says why it failed. -/
def autosaveError (s : Session) : m (Option ShellError) := do
  if s.autosave && s.dataFile.isSome then
    match ← s.save with
    | .ok _ => return none
    | .error e => return some e
  else
    return none

/-- Executes a submission.  If the snapshot cannot be written the rows are kept all the same. -/
def execute (s : Session) (submission : String) : m (Session × Submission) := do
  let x := s.engine.execute s.store s.index submission
  let s := s.adopt x
  if x.store.isSome then
    return (s, ⟨x, ← s.autosaveError⟩)
  else
    return (s, ⟨x, none⟩)

/-- Goes back to the initial store. -/
def reset (s : Session) : m (Session × Option ShellError) := do
  let s := ofStore s.engine .initial s.dataFile s.autosave
  return (s, ← s.autosaveError)

/-- Writes the text of a table to a file. -/
def exportTable (s : Session) (t : TableName) (path : String) : m (Except ShellError Unit) := do
  match ← MonadFiles.writeFile path (s.store.table t).toText with
  | .ok () => return .ok ()
  | .error e => return .error (.unwritableExport t path e)

end Session

end DogRegistry
