import DogRegistry.Files.Basic
import DogRegistry.Report.Format

/-!
# Errors of the shell

What can go wrong outside the tables: with files, with the settings, and with the snapshot.

## Main definitions

* `ShellError` — the causes.
* `ShellError.chain` — a cause in words, from what was tried to why it failed.
-/

namespace DogRegistry

/-- What can go wrong outside the tables. -/
inductive ShellError
  /-- A file operation failed. -/
  | file (cause : OsError)
  /-- There is no snapshot file to save to. -/
  | noDataFile
  /-- The snapshot file cannot be read. -/
  | unreadableSnapshot (path : String) (cause : OsError)
  /-- The snapshot file holds no snapshot. -/
  | invalidSnapshot (path : String)
  /-- The snapshot file cannot be written. -/
  | unwritableSnapshot (path : String) (cause : OsError)
  /-- The file that a table goes to cannot be written. -/
  | unwritableExport (table : TableName) (path : String) (cause : OsError)
  /-- A file of statements cannot be read. -/
  | unreadableScript (path : String) (cause : OsError)
  /-- The settings file cannot be read. -/
  | unreadableSettings (path : String) (cause : OsError)
  /-- The settings file holds no settings. -/
  | invalidSettings (path : String)
  /-- A number in the settings has no written form. -/
  | unwritableSettings
  /-- There is no place for a settings file. -/
  | noSettingsPath
  /-- The order of the index is too small. -/
  | invalidOrder (cause : InvalidOrder)
  /-- The output format does not exist. -/
  | unknownFormat (cause : UnknownFormat)
  deriving DecidableEq, Repr

namespace ShellError

/-- An error in words, from what was tried to why it failed. -/
def chain : ShellError → List String
  | file cause => [cause.message]
  | noDataFile => ["no data file configured (use --data or set data_file)"]
  | unreadableSnapshot path cause => [s!"failed to read snapshot {path}", cause.message]
  | invalidSnapshot path => [s!"invalid snapshot {path}"]
  | unwritableSnapshot path cause => [s!"failed to write snapshot {path}", cause.message]
  | unwritableExport table path cause =>
    [s!"failed to export {table.label} to {path}", cause.message]
  | unreadableScript path cause => [s!"failed to read {path}", cause.message]
  | unreadableSettings path cause => [s!"failed to read config {path}", cause.message]
  | invalidSettings path => [s!"invalid config {path}"]
  | unwritableSettings => ["out-of-range value for u64 type"]
  | noSettingsPath => ["no config directory available; pass --config"]
  | invalidOrder cause => [cause.message]
  | unknownFormat cause => [cause.message]

/-- The first part of an error in words. -/
def headline (e : ShellError) : String :=
  e.chain.headD ""

/-- The whole of an error in words. -/
def message (e : ShellError) : String :=
  ": ".intercalate e.chain

end ShellError

end DogRegistry
