import DogRegistry.Json.StringMap
import DogRegistry.Shell.Error

/-!
# Snapshots

The content of the registry in one file: a JSON object with the text of every table.  The index
is not stored.

## Main definitions

* `Snapshot.toText`, `Snapshot.parse?` — the written form of a store and its reader.
* `Snapshot.save`, `Snapshot.load` — the same with a file.

## Main results

* `Snapshot.toText_eq` — the written form, line by line.
-/

namespace DogRegistry

namespace Snapshot

/-- The written form of a store. -/
def toText (s : Store) : String :=
  (Json.obj (s.texts.map fun t => (t.1, .str t.2))).pretty

/-- A store is written as a JSON object that has the text of each table under its name, on a line of
its own. -/
theorem toText_eq (s : Store) :
    toText s =
      "\x7b\n" ++ ("  " ++ Json.quote "dogs" ++ ": " ++ Json.quote s.dogs.toText ++ ",\n") ++
        ("  " ++ Json.quote "owners" ++ ": " ++ Json.quote s.owners.toText ++ "\n") ++ "\x7d" := by
  have hindent : Json.indent 0 = "" ∧ Json.indent 1 = "  " := by decide
  show Json.block 0 "\x7b" "\x7d" [Json.quote "dogs" ++ ": " ++ Json.quote s.dogs.toText,
    Json.quote "owners" ++ ": " ++ Json.quote s.owners.toText] = _
  simp [Json.block, hindent, String.append_assoc]

/-- Reads the written form of a store.  The tables may stand under any name they go by. -/
def parse? (text : String) : Option Store := do
  let tables ← Json.parseStringMap text
  (Store.load tables).toOption

variable {m : Type → Type} [Monad m] [MonadFiles m]

/-- Writes a store to a file that lies in an existing directory. -/
def write (path : String) (s : Store) : m (Except ShellError Unit) := do
  match ← MonadFiles.writeFile path (toText s) with
  | .ok () => return .ok ()
  | .error e => return .error (.unwritableSnapshot path e)

/-- Writes a store to a file and creates the directories it lies in. -/
def save (path : String) (s : Store) : m (Except ShellError Unit) := do
  match parentPath? path with
  | none => write path s
  | some parent =>
    match ← MonadFiles.createDirs parent with
    | .ok () => write path s
    | .error e => return .error (.file e)

/-- Reads a store from a file, if the file exists. -/
def load (path : String) : m (Except ShellError (Option Store)) := do
  if ← MonadFiles.pathExists path then
    match ← MonadFiles.readFile path with
    | .error e => return .error (.unreadableSnapshot path e)
    | .ok text =>
      match parse? text with
      | some s => return .ok (some s)
      | none => return .error (.invalidSnapshot path)
  else
    return .ok none

end Snapshot

end DogRegistry
