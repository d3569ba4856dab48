import DogRegistry.Cli.Options
import DogRegistry.Settings.Basic
import DogRegistry.Shell.Basic
import DogRegistry.Text.Backspace

/-!
# Runs of the program

A run reads its options and settings and then writes the settings, executes one submission,
command or file, or takes inputs until there are no more.  An input ends at the end of a line,
if it is blank, is a command, or ends in a semicolon.  Backspaces take back what was entered, also
on the lines before.

## Main definitions

* `Environment` — what a run knows besides its arguments.
* `Transcript` — what a run prints, and its exit code.
* `entered`, `inputs` — the inputs in a text.
* `Program.prepare`, `Program.perform` — the two halves of a run.
* `Program.run` — a run on a given standard input.
-/

namespace DogRegistry

open Text

/-- What a run knows besides its arguments. -/
structure Environment where
  /-- The home directory of the user. -/
  home : Option String := none
  /-- The snapshot file that is used unless the arguments name one. -/
  dataFile : Option String := none
  deriving DecidableEq, Repr

/-- What a run prints, and its exit code. -/
structure Transcript where
  /-- The exit code. -/
  code : Nat := 0
  /-- The text on the standard output. -/
  stdout : String := ""
  /-- The text on the standard error output. -/
  stderr : String := ""
  deriving DecidableEq, Repr

namespace Transcript

/-- What is printed by one part of a run and then by another, whose exit code counts. -/
def append (a b : Transcript) : Transcript where
  code := b.code
  stdout := a.stdout ++ b.stdout
  stderr := a.stderr ++ b.stderr

instance : Append Transcript := ⟨append⟩

/-- The report of an error. -/
def errorText (e : ShellError) : String :=
  s!"Error: {e.message}\n"

/-- The run that ends in an error. -/
def failure (e : ShellError) : Transcript where
  code := 1
  stderr := errorText e

/-- What a line prints. -/
def ofReply (r : Reply) : Transcript where
  stdout := r.stdout
  stderr := r.stderr

/-- What a line prints, or the error that it ends in. -/
def ofResult : Except ShellError Reply → Transcript
  | .ok r => ofReply r
  | .error e => failure e

end Transcript

/-! ### Inputs -/

/-- `isComplete text` says an input may end behind `text`. -/
def isComplete (text : List Char) : Bool :=
  let trimmed := trimChars text
  trimmed.isEmpty || trimmed.head? == some '\\' || trimmed.getLast? == some ';'

/-- The text that is there once a line, without its line end, was entered behind the text of an
input that goes on. -/
def entered (pending line : String) : String :=
  String.ofList (applyBackspaces (pending ++ line).toList)

/-- The inputs in the lines of a text, each line with its line end.  Text that does not become
complete is dropped. -/
def inputsFrom (pending : String) : List (String × String) → List String
  | [] => []
  | (line, lineEnd) :: rest =>
    let text := entered pending line
    if isComplete text.toList then trim text :: inputsFrom "" rest
    else inputsFrom (text ++ lineEnd) rest

/-- A line without its line end, and its line end. -/
def splitLineEnd (cs : List Char) : String × String :=
  if cs.getLast? = some '\r' then (String.ofList cs.dropLast, "\r\n") else (String.ofList cs, "\n")

/-- The lines of a text with their line ends. -/
def inputLines (s : String) : List (String × String) :=
  let pieces := s.toList.splitOn '\n'
  let last := (pieces.getLast?.toList).filter fun cs => !cs.isEmpty
  pieces.dropLast.map splitLineEnd ++ last.map fun cs => (String.ofList cs, "")

/-- The inputs in a text. -/
def inputs (s : String) : List String :=
  inputsFrom "" (inputLines s)

/-! ### Runs -/

namespace Program

/-- The settings with what the options and the environment say on top. -/
def overrides (o : Options) (env : Environment) (s : Settings) : Settings :=
  { s with
    dataFile := o.dataFile <|> env.dataFile <|> s.dataFile
    index :=
      { order := o.order.getD s.index.order
        policy := if o.strictSplits then .recursive else s.index.policy } }

/-- The text after the last input. -/
def farewell : String := "Goodbye!\n"

/-- The text at the end of the standard input. -/
def endOfInput : String := "\\q\n"

variable {m : Type → Type} [Monad m] [MonadFiles m]

/-- Reads the settings file that the options name, or that of the user.  Where the settings are
to be written the file need not exist. -/
def settings (o : Options) (env : Environment) : m (Except ShellError Settings) := do
  match o.settingsFile with
  | none => return (← Settings.loadDefault env.home).map (overrides o env)
  | some path =>
    if o.initSettings && !(← MonadFiles.pathExists path) then
      return .ok (overrides o env {})
    else
      return (← Settings.load path).map (overrides o env)

/-- Writes the settings to the file that the options name, or to that of the user. -/
def writeSettings (o : Options) (env : Environment) (s : Settings) : m Transcript := do
  match o.settingsFile <|> env.home.map Settings.userFile with
  | none => return .failure .noSettingsPath
  | some path =>
    match ← s.save path with
    | .ok () => return { stdout := s!"Wrote {path}\n" }
    | .error e => return .failure e

/-- The output format: that of the options, or else that of the settings. -/
def outputFormat (o : Options) (s : Settings) : Except ShellError OutputFormat :=
  match o.output with
  | some format => .ok format
  | none => (OutputFormat.parse s.outputFormat).mapError .unknownFormat

/-- The shell at the beginning of a run. -/
def openShell (s : Settings) (format : OutputFormat) : m (Except ShellError Shell) := do
  return (← Session.start s.index s.dataFile s.autosave).map (⟨·, format, s.timing⟩)

/-- Executes one submission or command. -/
def runCommand (s : Settings) (format : OutputFormat) (command : String) :
    m (Except ShellError Reply) := do
  match ← openShell s format with
  | .error e => return .error e
  | .ok sh => return (← sh.processLine (trim command)).2

/-- Executes a file of statements as one submission. -/
def runScript (s : Settings) (format : OutputFormat) (path : String) :
    m (Except ShellError Reply) := do
  match ← MonadFiles.readFile path with
  | .error e => return .error (.unreadableScript path e)
  | .ok content =>
    match ← openShell s format with
    | .error e => return .error e
    | .ok sh => return .ok (← sh.submit (stripComments content)).2

/-- Takes one input of a conversation.  Blank inputs are skipped, and an error is reported but does
not end the conversation. -/
def converseStep (sh : Shell) (input : String) : m (Shell × Reply) := do
  if input = "" then
    return (sh, {})
  else
    match ← sh.processLine input with
    | (sh, .ok reply) => return (sh, reply)
    | (sh, .error e) => return (sh, { stderr := Transcript.errorText e })

/-- Takes inputs until one ends the shell or there are no more. -/
def converse (sh : Shell) : List String → m Transcript
  | [] => return { stdout := endOfInput ++ farewell }
  | input :: rest => do
    let (sh, reply) ← converseStep sh input
    if reply.exit then
      return .ofReply reply ++ { stdout := farewell }
    else
      return .ofReply reply ++ (← converse sh rest)

/-- Takes the inputs in a text. -/
def runInputs (s : Settings) (format : OutputFormat) (quiet : Bool) (stdin : String) :
    m Transcript := do
  match ← openShell s format with
  | .error e => return .failure e
  | .ok sh =>
    return { stdout := if quiet then "" else sh.banner } ++ (← converse sh (inputs stdin))

/-- What a run does once its options and settings are known. -/
inductive Task
  /-- Writes the settings. -/
  | writeSettings
  /-- Executes one submission or command. -/
  | command (format : OutputFormat) (command : String)
  /-- Executes a file of statements. -/
  | script (format : OutputFormat) (path : String)
  /-- Takes the inputs from the standard input. -/
  | conversation (format : OutputFormat)
  deriving DecidableEq, Repr

/-- The task that the options and settings ask for. -/
def task (o : Options) (s : Settings) : Except ShellError Task := do
  if o.initSettings then
    return .writeSettings
  let format ← outputFormat o s
  match o.command, o.script with
  | some command, _ => return .command format command
  | none, some path => return .script format path
  | none, none => return .conversation format

/-- The options in some arguments.  The snapshot file that the environment names has to have a
name. -/
def options (arguments : List String) (env : Environment) : Except ArgumentStop Options := do
  let o ← Options.parse arguments
  if o.dataFile.isNone && env.dataFile = some "" then
    refuse (.missingValue OptionName.data.label)
  else
    return o

/-- The run whose arguments give no options: it reports the version or what is wrong. -/
def stopped : ArgumentStop → Transcript
  | .version => { stdout := s!"kennel {versionText}\n" }
  | .error e => { code := 2, stderr := s!"error: {e.message}\n" }

/-- The options, the settings and the task of a run, or the run itself if it ends before there is a
task. -/
def prepare (arguments : List String) (env : Environment) :
    m (Except Transcript (Options × Settings × Task)) := do
  match options arguments env with
  | .error e => return .error (stopped e)
  | .ok o =>
    match ← settings o env with
    | .error e => return .error (.failure e)
    | .ok s =>
      match task o s with
      | .error e => return .error (.failure e)
      | .ok t => return .ok (o, s, t)

/-- Carries out a task on the given standard input. -/
def perform (o : Options) (env : Environment) (s : Settings) (stdin : String) :
    Task → m Transcript
  | .writeSettings => writeSettings o env s
  | .command format command => return .ofResult (← runCommand s format command)
  | .script format path => return .ofResult (← runScript s format path)
  | .conversation format => runInputs s format o.quiet stdin

/-- A run with the given arguments on the given standard input. -/
def run (arguments : List String) (env : Environment) (stdin : String) : m Transcript := do
  match ← prepare arguments env with
  | .error t => return t
  | .ok (o, s, t) => perform o env s stdin t

end Program

end DogRegistry
