import DogRegistry.Report.Format

/-!
# Command-line options

The options of the program, each of which may be given once, in any order.  A value follows its
option as the next argument, after an equals sign, or, for options of one letter, directly.

## Main definitions

* `Options` — what the command line asks for.
* `Options.parse` — reads the arguments.
-/

namespace DogRegistry

/-- What the command line asks for. -/
structure Options where
  /-- A submission or command to execute. -/
  command : Option String := none
  /-- A file of statements to execute. -/
  script : Option String := none
  /-- The snapshot file. -/
  dataFile : Option String := none
  /-- The settings file. -/
  settingsFile : Option String := none
  /-- The output format. -/
  output : Option OutputFormat := none
  /-- The order of the index. -/
  order : Option Nat := none
  /-- Whether full nodes are split at every level. -/
  strictSplits : Bool := false
  /-- Whether more is logged. -/
  verbose : Bool := false
  /-- Whether the text at the beginning is left out. -/
  quiet : Bool := false
  /-- Whether the settings are written instead of anything else. -/
  initSettings : Bool := false
  deriving DecidableEq, Repr

/-- What is wrong with the arguments. -/
inductive UsageError
  /-- No option has this name, or the argument belongs to none. -/
  | unexpected (argument : String)
  /-- The option needs a value. -/
  | missingValue (option : String)
  /-- The option does not take this value. -/
  | invalidValue (option value : String)
  /-- The option is given twice. -/
  | repeated (option : String)
  deriving DecidableEq, Repr

/-- The wording of the error. -/
def UsageError.message : UsageError → String
  | unexpected argument => s!"unexpected argument '{argument}' found"
  | missingValue option => s!"a value is required for '{option}' but none was supplied"
  | invalidValue option value => s!"invalid value '{value}' for '{option}'"
  | repeated option => s!"the argument '{option}' cannot be used multiple times"

/-- Why some arguments give no options. -/
inductive ArgumentStop
  /-- The version is asked for.  What comes behind the question is not read. -/
  | version
  /-- An argument is wrong. -/
  | error (cause : UsageError)
  deriving DecidableEq, Repr

/-- Stops at an argument that is wrong. -/
def refuse {α : Type} (e : UsageError) : Except ArgumentStop α :=
  .error (.error e)

/-- The options by their long names. -/
inductive OptionName
  /-- A submission or command to execute. -/
  | command
  /-- A file of statements to execute. -/
  | file
  /-- The snapshot file. -/
  | data
  /-- The settings file. -/
  | config
  /-- The output format. -/
  | output
  /-- The order of the index. -/
  | order
  /-- Splits at every level. -/
  | strictSplits
  /-- More logging. -/
  | verbose
  /-- No text at the beginning. -/
  | quiet
  /-- Writes the settings. -/
  | initSettings
  /-- Shows the version. -/
  | version
  deriving DecidableEq, Repr

namespace OptionName

/-- The option with the given long name. -/
def ofLong? : String → Option OptionName
  | "command" => some command
  | "file" => some file
  | "data" => some data
  | "config" => some config
  | "output" => some output
  | "order" => some order
  | "strict-splits" => some strictSplits
  | "verbose" => some verbose
  | "quiet" => some quiet
  | "init-config" => some initSettings
  | "version" => some version
  | _ => none

/-- The option with the given letter. -/
def ofLetter? : Char → Option OptionName
  | 'c' => some command
  | 'f' => some file
  | 'o' => some output
  | 'v' => some verbose
  | 'q' => some quiet
  | 'V' => some version
  | _ => none

/-- `n.takesValue` says a value belongs to the option. -/
def takesValue : OptionName → Bool
  | command | file | data | config | output | order => true
  | strictSplits | verbose | quiet | initSettings | version => false

/-- The option the way it is written. -/
def label : OptionName → String
  | command => "--command"
  | file => "--file"
  | data => "--data"
  | config => "--config"
  | output => "--output"
  | order => "--order"
  | strictSplits => "--strict-splits"
  | verbose => "--verbose"
  | quiet => "--quiet"
  | initSettings => "--init-config"
  | version => "--version"

end OptionName

/-- The number of 64 bits that is written with the given characters: decimal digits, with a plus
sign in front or not. -/
def parseWord? (cs : List Char) : Option Nat :=
  let digits := if cs.head? = some '+' then cs.tail else cs
  (RowId.ofDigits? digits).map RowId.toNat

namespace Options

/-- Sets a text, unless it is set or the new one is empty. -/
def setText (name : OptionName) (old : Option String) (value : String) :
    Except ArgumentStop (Option String) :=
  if old.isSome then refuse (.repeated name.label)
  else if value = "" then refuse (.missingValue name.label)
  else .ok (some value)

/-- Sets a flag, unless it is set. -/
def setFlag (name : OptionName) (old : Bool) : Except ArgumentStop Bool :=
  if old then refuse (.repeated name.label) else .ok true

/-- The options with one more, which takes a value. -/
def setValue (o : Options) (name : OptionName) (value : String) : Except ArgumentStop Options :=
  match name with
  | .command =>
    if o.command.isSome then refuse (.repeated name.label)
    else .ok { o with command := some value }
  | .file => do return { o with script := ← setText name o.script value }
  | .data => do return { o with dataFile := ← setText name o.dataFile value }
  | .config => do return { o with settingsFile := ← setText name o.settingsFile value }
  | .output =>
    if o.output.isSome then refuse (.repeated name.label)
    else
      match OutputFormat.ofLabel? value with
      | some format => .ok { o with output := some format }
      | none => refuse (.invalidValue name.label value)
  | .order =>
    if o.order.isSome then refuse (.repeated name.label)
    else
      match parseWord? value.toList with
      | some n => .ok { o with order := some n }
      | none => refuse (.invalidValue name.label value)
  | _ => refuse (.unexpected value)

/-- The options with one more, which takes no value. -/
def setSwitch (o : Options) (name : OptionName) : Except ArgumentStop Options :=
  match name with
  | .strictSplits => do return { o with strictSplits := ← setFlag name o.strictSplits }
  | .verbose => do return { o with verbose := ← setFlag name o.verbose }
  | .quiet => do return { o with quiet := ← setFlag name o.quiet }
  | .initSettings => do return { o with initSettings := ← setFlag name o.initSettings }
  | .version => .error .version
  | _ => refuse (.missingValue name.label)

/-- What the reader expects next. -/
inductive Expecting
  /-- An option. -/
  | option
  /-- The value of the given option. -/
  | value (name : OptionName)
  /-- Nothing, behind a lone pair of dashes. -/
  | nothing
  deriving DecidableEq, Repr

/-- Reads the letters of a group such as `-qc`, the last of which may have its value behind it. -/
def readLetters (o : Options) : List Char → Except ArgumentStop (Options × Expecting)
  | [] => .ok (o, .option)
  | letter :: rest =>
    match OptionName.ofLetter? letter with
    | none => refuse (.unexpected ("-" ++ letter.toString))
    | some name =>
      if name.takesValue then
        match rest with
        | [] => .ok (o, .value name)
        | '=' :: value => (o.setValue name (String.ofList value)).map (·, .option)
        | value => (o.setValue name (String.ofList value)).map (·, .option)
      else do
        readLetters (← o.setSwitch name) rest

/-- Reads an option with a long name, which may have its value behind an equals sign. -/
def readLong (o : Options) (argument : List Char) : Except ArgumentStop (Options × Expecting) :=
  let name := argument.takeWhile (· != '=')
  let value := argument.dropWhile (· != '=')
  match OptionName.ofLong? (String.ofList name) with
  | none => refuse (.unexpected ("--" ++ String.ofList name))
  | some name =>
    match name.takesValue, value with
    | true, [] => .ok (o, .value name)
    | true, _ :: value => (o.setValue name (String.ofList value)).map (·, .option)
    | false, [] => (o.setSwitch name).map (·, .option)
    | false, _ :: value => refuse (.invalidValue name.label (String.ofList value))

/-- Reads one argument.  An argument that begins with a dash is no value. -/
def readArgument (o : Options) (state : Expecting) (argument : String) :
    Except ArgumentStop (Options × Expecting) :=
  match state, argument.toList with
  | .option, ['-', '-'] => .ok (o, .nothing)
  | .option, '-' :: '-' :: name => readLong o name
  | .option, '-' :: letter :: rest => readLetters o (letter :: rest)
  | .option, _ => refuse (.unexpected argument)
  | .value name, '-' :: _ :: _ => refuse (.missingValue name.label)
  | .value name, _ => (o.setValue name argument).map (·, .option)
  | .nothing, _ => refuse (.unexpected argument)

/-- Reads all arguments. -/
def parse (arguments : List String) : Except ArgumentStop Options := do
  let (o, state) ← arguments.foldlM (fun s a => readArgument s.1 s.2 a) ({}, .option)
  match state with
  | .option | .nothing => return o
  | .value name => refuse (.missingValue name.label)

end Options

end DogRegistry
