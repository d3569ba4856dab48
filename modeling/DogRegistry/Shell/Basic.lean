import DogRegistry.Shell.Command
import DogRegistry.Shell.Help
import DogRegistry.Shell.Session

/-!
# The shell

The shell takes one line after the other: a command if it begins with a backslash, and a submission
otherwise.  It answers with what is to be printed.

## Main definitions

* `Shell` — a session and the way results are shown.
* `Reply` — what a line prints, and whether it ends the shell.
* `Shell.processLine` — takes one line.
-/

namespace DogRegistry

open Text

/-- A session and the way results are shown. -/
structure Shell where
  /-- The current state of the registry. -/
  session : Session
  /-- The form of results. -/
  format : OutputFormat
  /-- Whether the time a submission takes is shown. -/
  timing : Bool
  deriving DecidableEq, Repr

/-- What a line prints. -/
structure Reply where
  /-- The text for the standard output. -/
  stdout : String := ""
  /-- The text for the standard error output. -/
  stderr : String := ""
  /-- Whether the line ends the shell. -/
  exit : Bool := false
  /-- Whether the line executed a submission whose time is to be shown. -/
  timed : Bool := false
  deriving DecidableEq, Repr

/-- The reply that prints a text and a line feed. -/
def Reply.line (text : String) : Reply where
  stdout := text ++ "\n"

namespace Shell

/-! ### Texts -/

/-- The log of a submission. -/
def executionText (format : OutputFormat) (x : Execution) : String :=
  if x.records.isEmpty then "No statements to execute.\n"
  else
    formatRecords x.records format ++ "\n"
      ++ if format = .table then s!"{x.successCount} succeeded, {x.failureCount} failed\n" else ""

/-- The warning that the snapshot could not be written. -/
def saveWarning (e : ShellError) : String :=
  s!"Warning: changes are kept in memory but were not saved: {e.message}\n"

/-- The result of a search: the steps and the rows that were found. -/
def searchText (format : OutputFormat) (term : String) (r : SearchResult) : String :=
  let term := trim term
  if format = .json then
    (Json.obj [("term", .str term), ("trace", traceToJson r.trace),
      ("rows", .arr (r.rows.map LabeledRow.toJson))]).pretty ++ "\n"
  else
    let steps := r.trace.zipIdx.map fun s => formatTraceStep (s.2 + 1) s.1 ++ "\n"
    let count := plural r.rows.length "row"
    String.join steps ++
      if r.rows.isEmpty then s!"No dogs found for breed '{term}'.\n"
      else formatRows r.rows format ++ s!"\n({count})\n"

/-- The list of the tables. -/
def tablesText (format : OutputFormat) (s : Store) : String :=
  let rows := TableName.all.map fun t =>
    let schema := t.schema
    let index := (schema.indexColumn.bind fun i => schema.columns[i]?).map (· ++ " (B+ tree)")
    [t.label, ", ".intercalate schema.columns, toString (s.table t).rows.length, index.getD ""]
  formatGrid ["table", "columns", "rows", "index"] rows format

/-- The rows of a table, with their number below a drawn table. -/
def describeText (format : OutputFormat) (t : Table) : String :=
  let count := plural t.rows.length "row"
  formatGrid t.header t.rows format ++ if format = .table then s!"\n({count})" else ""

/-- The message that a table does not exist. -/
def noTableText (name : String) : String :=
  s!"Table '{name}' does not exist."

/-- The text the shell begins with. -/
def banner (sh : Shell) : String :=
  let place :=
    match sh.session.dataFile with
    | some path => s!"Data file: {path}"
    | none => "Working on the seed tables (not saved)."
  s!"{productName} v{versionText}\n{place}\nType \\? for help, \\q to quit.\n\n"

/-- The line that shows how many microseconds a submission took, in milliseconds with three
decimals. -/
def timeText (microseconds : Nat) : String :=
  let decimals := toString (microseconds % 1000)
  s!"Time: {microseconds / 1000}." ++ BoxTable.repeated '0' (3 - decimals.length) ++ decimals
    ++ "ms\n"

/-! ### Lines -/

variable {m : Type → Type} [Monad m] [MonadFiles m]

/-- Executes a submission. -/
def submit (sh : Shell) (submission : String) : m (Shell × Reply) := do
  let (session, result) ← sh.session.execute submission
  return ({ sh with session },
    { stdout := executionText sh.format result.execution
      stderr := (result.saveError.map saveWarning).getD ""
      timed := sh.timing })

/-- Carries out a command. -/
def runCommand (sh : Shell) : Command → m (Shell × Except ShellError Reply)
  | .quit => return (sh, .ok { exit := true })
  | .help => return (sh, .ok (.line helpText))
  | .listTables => return (sh, .ok (.line (tablesText sh.format sh.session.store)))
  | .describe none =>
    return (sh, .ok (.line "Usage: \\d <table>. Use \\dt to list tables."))
  | .describe (some name) =>
    match TableName.resolve? name with
    | none => return (sh, .ok (.line (noTableText name)))
    | some t => return (sh, .ok (.line (describeText sh.format (sh.session.store.table t))))
  | .search term =>
    if term = "" then return (sh, .ok (.line "Usage: \\search <breed>"))
    else
      let result := search term sh.session.index sh.session.store
      return (sh, .ok { stdout := searchText sh.format term result })
  | .tree => return (sh, .ok (.line (formatTree sh.session.index sh.format)))
  | .reset => do
    let (session, saveError) ← sh.session.reset
    match saveError with
    | none => return ({ sh with session }, .ok (.line "Tables reset to seed data."))
    | some e => return ({ sh with session }, .error e)
  | .save => do
    match ← sh.session.save with
    | .ok path => return (sh, .ok (.line s!"Saved to {path}."))
    | .error e => return (sh, .error e)
  | .exportTable none => return (sh, .ok (.line "Usage: \\export <table> <path>"))
  | .exportTable (some (name, path)) =>
    match TableName.resolve? name with
    | none => return (sh, .ok (.line (noTableText name)))
    | some t => do
      match ← sh.session.exportTable t path with
      | .ok () => return (sh, .ok (.line s!"Exported {t.label} to {path}."))
      | .error e => return (sh, .error e)
  | .timing =>
    let text := if sh.timing then "Timing is off." else "Timing is on."
    return ({ sh with timing := !sh.timing }, .ok (.line text))
  | .format name =>
    match OutputFormat.parse name with
    | .ok format =>
      return ({ sh with format }, .ok (.line s!"Output format set to {format.label}."))
    | .error e => return (sh, .ok (.line e.message))
  | .runFile path => do
    if path = "" then return (sh, .ok (.line "Usage: \\i <filename>"))
    else
      match ← MonadFiles.readFile path with
      | .error e => return (sh, .error (.file e))
      | .ok content =>
        let (sh, reply) ← sh.submit (stripComments content)
        return (sh, .ok reply)
  | .unknown name =>
    return (sh, .ok (.line s!"Unknown command '\\{name}'. Type \\? for help."))

/-- Takes one line.  The state that comes back is the one to go on with, also after an error. -/
def processLine (sh : Shell) (line : String) : m (Shell × Except ShellError Reply) := do
  if line.toList.head? = some '\\' then
    sh.runCommand (Command.parse line)
  else
    let (sh, reply) ← sh.submit line
    return (sh, .ok reply)

end Shell

end DogRegistry
