import DogRegistry.Shell.Error
import DogRegistry.Toml.Document
import DogRegistry.Toml.Written

/-!
# Settings

What the shell can be told by a settings file.  Every setting has a default, so a file may leave out
any of them; settings that are not known are skipped.

## Main definitions

* `Settings` — the settings.
* `Settings.parse?`, `Settings.toText?` — the reader of settings files and their written form.
* `Settings.load`, `Settings.loadDefault`, `Settings.save` — the same with files.
-/

namespace DogRegistry

/-- What the shell can be told. -/
structure Settings where
  /-- The snapshot file. -/
  dataFile : Option String := none
  /-- Whether the snapshot is written after every submission that stores a row. -/
  autosave : Bool := true
  /-- The name of the output format. -/
  outputFormat : String := "table"
  /-- Whether the time a submission takes is shown. -/
  timing : Bool := false
  /-- The file with the lines that were entered before. -/
  historyFile : Option String := none
  /-- How many lines that file holds at most. -/
  historySize : Nat := 1000
  /-- The pause between two steps of a search, in milliseconds. -/
  traceDelay : Nat := 0
  /-- The settings of the index. -/
  index : IndexConfig := {}
  deriving DecidableEq, Repr

namespace Settings

/-! ### Reading -/

/-- The text that an item stands for. -/
def textOf? : Toml.Item → Option String
  | .text s => some s
  | _ => none

/-- The truth value that an item stands for. -/
def booleanOf? : Toml.Item → Option Bool
  | .boolean b => some b
  | _ => none

/-- The natural number that an item stands for. -/
def numberOf? : Toml.Item → Option Nat
  | .integer n => if 0 ≤ n then some n.toNat else none
  | _ => none

/-- `isEmptyItem item` says the item is a table or an array with nothing in it. -/
def isEmptyItem : Toml.Item → Bool
  | .table _ entries => entries.isEmpty
  | .array items => items.isEmpty
  | _ => false

/-- The way of splitting that an item stands for: its name, or a table with nothing but an empty
item under its name. -/
def policyOf? : Toml.Item → Option SplitPolicy
  | .text name => SplitPolicy.ofLabel? name
  | .table _ [(name, item)] => if isEmptyItem item then SplitPolicy.ofLabel? name else none
  | _ => none

/-- What an item stands for, or `default` if there is no item. -/
def itemD {α : Type} (decode : Toml.Item → Option α) (default : α) : Option Toml.Item → Option α
  | none => some default
  | some item => decode item

/-- The settings of the index whose order and way of splitting are given by items. -/
def indexOf? (order policy : Option Toml.Item) : Option IndexConfig := do
  return {
    order := ← itemD numberOf? ({} : IndexConfig).order order
    policy := ← itemD policyOf? ({} : IndexConfig).policy policy }

/-- The settings of the index that an item stands for: a table, or an array with the settings in
their order.  A date is a table without them. -/
def indexOfItem? : Toml.Item → Option IndexConfig
  | .table _ entries => indexOf? (entries.lookup "order") (entries.lookup "split_policy")
  | .array items => indexOf? items[0]? items[1]?
  | .moment => some {}
  | _ => none

/-- The settings in the contents of a file. -/
def ofEntries? (es : Toml.Entries) : Option Settings := do
  let at? {α : Type} (key : String) (decode : Toml.Item → Option α) (default : α) : Option α :=
    itemD decode default (es.lookup key)
  return {
    dataFile := ← at? "data_file" (fun item => some <$> textOf? item) none
    autosave := ← at? "autosave" booleanOf? true
    outputFormat := ← at? "output_format" textOf? "table"
    timing := ← at? "timing" booleanOf? false
    historyFile := ← at? "history_file" (fun item => some <$> textOf? item) none
    historySize := ← at? "history_size" numberOf? 1000
    traceDelay := ← at? "trace_delay_ms" numberOf? 0
    index := ← at? "index" indexOfItem? {} }

/-- Reads a settings file. -/
def parse? (text : String) : Option Settings :=
  (Toml.parse? text).bind ofEntries?

/-! ### Writing -/

/-- A line with a key and a value. -/
def entryLine (key value : String) : String :=
  key ++ " = " ++ value ++ "\n"

/-- A line with a key and a text, if there is a text. -/
def textLine (key : String) (value : Option String) : String :=
  (value.map fun s => entryLine key (Toml.writeString s)).getD ""

/-- The written form of the settings.  There is none if a number is too large for a settings
text. -/
def toText? (s : Settings) : Option String :=
  if s.historySize < Toml.integerBound ∧ s.traceDelay < Toml.integerBound
      ∧ s.index.order < Toml.integerBound then
    some <| String.join
      [textLine "data_file" s.dataFile, entryLine "autosave" (toString s.autosave),
       entryLine "output_format" (Toml.writeString s.outputFormat),
       entryLine "timing" (toString s.timing), textLine "history_file" s.historyFile,
       entryLine "history_size" (toString s.historySize),
       entryLine "trace_delay_ms" (toString s.traceDelay), "\n[index]\n",
       entryLine "order" (toString s.index.order),
       entryLine "split_policy" (Toml.writeString s.index.policy.label)]
  else
    none

/-! ### Files -/

/-- The settings file in a configuration directory. -/
def fileIn (directory : String) : String :=
  directory ++ "/config.toml"

/-- The settings file of a user whose home directory is given: the one that is written. -/
def userFile (home : String) : String :=
  fileIn (home ++ "/.config/kenneldb")

/-- The settings files of a user in the order in which they are looked for. -/
def userFiles (home : String) : List String :=
  [userFile home, fileIn (home ++ "/.kenneldb")]

variable {m : Type → Type} [Monad m] [MonadFiles m]

/-- Reads the settings from a file. -/
def load (path : String) : m (Except ShellError Settings) := do
  match ← MonadFiles.readFile path with
  | .error e => return .error (.unreadableSettings path e)
  | .ok text =>
    match parse? text with
    | some s => return .ok s
    | none => return .error (.invalidSettings path)

/-- Reads the settings from the first of some files that exists. -/
def loadFirst : List String → m (Except ShellError Settings)
  | [] => return .ok {}
  | path :: paths => do
    if ← MonadFiles.pathExists path then load path else loadFirst paths

/-- Reads the settings of the user whose home directory is given, if there is one. -/
def loadDefault (home : Option String) : m (Except ShellError Settings) :=
  loadFirst ((home.map userFiles).getD [])

/-- Writes the settings to a file and creates the directories it lies in. -/
def save (s : Settings) (path : String) : m (Except ShellError Unit) := do
  match s.toText? with
  | none => return .error .unwritableSettings
  | some text =>
    match ← MonadFiles.createDirs ((parentPath? path).getD "") with
    | .error e => return .error (.file e)
    | .ok () =>
      match ← MonadFiles.writeFile path text with
      | .ok () => return .ok ()
      | .error e => return .error (.file e)

end Settings

end DogRegistry
