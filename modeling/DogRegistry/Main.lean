import DogRegistry.Cli.Run

/-!
# The program

The command line: file operations and the standard streams of the operating system around the
runs of `DogRegistry.Cli.Run`.

## Main definitions

* `main` — runs the program.
-/

namespace DogRegistry

/-- A failed file operation as an error of the shell. -/
def OsError.ofSystem : IO.Error → OsError
  | .noFileOrDirectory .. => .notFound
  | .alreadyExists .. => .alreadyExists
  | e => .other (toString e)

/-- The result of a file operation. -/
def attemptFile {α : Type} (action : IO α) : IO (Except OsError α) := do
  try
    return .ok (← action)
  catch e =>
    return .error (OsError.ofSystem e)

/-- The file system of the operating system. -/
instance : MonadFiles IO where
  pathExists path := do
    match ← attemptFile (IO.FS.Handle.mk path .read) with
    | .ok _ => return true
    | .error e => return e ≠ .notFound
  readFile path := attemptFile (IO.FS.readFile path)
  createDirs path := do
    if path = "" then return .ok () else attemptFile (IO.FS.createDirAll path)
  writeFile path content := attemptFile (IO.FS.writeFile path content)

/-- Prints what a part of a run prints. -/
def Transcript.print (t : Transcript) : IO Unit := do
  IO.print t.stdout
  (← IO.getStdout).flush
  IO.eprint t.stderr

/-- A reply with the time since `start` behind it, where that is to be shown. -/
def Reply.withTime (r : Reply) (start : Nat) : IO Reply := do
  if r.timed then
    return { r with stdout := r.stdout ++ Shell.timeText (((← IO.monoNanosNow) - start) / 1000) }
  else
    return r

/-- Takes inputs from the standard input until one ends the shell or there are no more. -/
partial def converse (sh : Shell) (pending : String) : IO Unit := do
  let line ← (← IO.getStdin).getLine
  if line = "" then
    Transcript.print { stdout := Program.endOfInput ++ Program.farewell }
  else
    let (line, lineEnd) :=
      if line.toList.getLast? = some '\n' then splitLineEnd line.toList.dropLast else (line, "")
    let text := entered pending line
    if isComplete text.toList then
      let start ← IO.monoNanosNow
      let (sh, reply) ← Program.converseStep sh (Text.trim text)
      (Transcript.ofReply (← reply.withTime start)).print
      if reply.exit then
        Transcript.print { stdout := Program.farewell }
      else
        converse sh ""
    else
      converse sh (text ++ lineEnd)

/-- Opens a shell and takes inputs from the standard input. -/
def converseFromStart (s : Settings) (format : OutputFormat) (quiet : Bool) : IO Transcript := do
  match ← Program.openShell s format with
  | .error e => return .failure e
  | .ok sh =>
    unless quiet do
      Transcript.print { stdout := sh.banner }
    converse sh ""
    return {}

/-- A single submission, command or file, and the time it takes. -/
def runTimed (action : IO (Except ShellError Reply)) : IO Transcript := do
  let start ← IO.monoNanosNow
  match ← action with
  | .error e => return .failure e
  | .ok reply => return .ofReply (← reply.withTime start)

/-- A run on the standard input. -/
def runOnStdin (arguments : List String) (env : Environment) : IO Transcript := do
  match ← Program.prepare arguments env with
  | .error t => return t
  | .ok (o, s, .writeSettings) => Program.writeSettings o env s
  | .ok (_, s, .command format command) => runTimed (Program.runCommand s format command)
  | .ok (_, s, .script format path) => runTimed (Program.runScript s format path)
  | .ok (o, s, .conversation format) => converseFromStart s format o.quiet

end DogRegistry

/-- Runs the program. -/
def main (arguments : List String) : IO UInt32 := do
  let env := { home := ← IO.getEnv "HOME", dataFile := ← IO.getEnv "KENNEL_DATA" }
  let t ← DogRegistry.runOnStdin arguments env
  t.print
  return t.code.toUInt32
