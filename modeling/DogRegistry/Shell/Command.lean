import DogRegistry.Text.LowerCase
import DogRegistry.Text.Split

/-!
# Commands

A line that begins with a backslash is a command: a name, in any case, and the rest of the line.

## Main definitions

* `Command` — the commands of the shell.
* `Command.parse` — reads a command.
* `stripComments` — a file of statements without its comment lines.
-/

namespace DogRegistry

open Text

/-- The commands of the shell. -/
inductive Command
  /-- Leaves the shell. -/
  | quit
  /-- Shows the list of commands. -/
  | help
  /-- Lists the tables. -/
  | listTables
  /-- Shows the rows of a table. -/
  | describe (table : Option String)
  /-- Searches the dogs by breed. -/
  | search (term : String)
  /-- Shows the index. -/
  | tree
  /-- Goes back to the initial tables. -/
  | reset
  /-- Writes the snapshot file. -/
  | save
  /-- Writes the text of a table to a file. -/
  | exportTable (target : Option (String × String))
  /-- Turns the display of times on or off. -/
  | timing
  /-- Chooses the output format. -/
  | format (name : String)
  /-- Executes a file of statements. -/
  | runFile (path : String)
  /-- No command has this name. -/
  | unknown (name : String)
  deriving DecidableEq, Repr, Inhabited

/-- The characters before the first blank and those after it, or `none` if there is no blank. -/
def splitAtBlank? (cs : List Char) : Option (List Char × List Char) :=
  match cs.dropWhile fun c => !isBlank c with
  | [] => none
  | _ :: rest => some (cs.takeWhile fun c => !isBlank c, rest)

namespace Command

/-- The command with the given name, in lower case, and the given arguments. -/
def ofName (name : String) (args : List Char) : Command :=
  let text := String.ofList args
  match name with
  | "q" | "quit" | "exit" => quit
  | "?" | "h" | "help" => help
  | "dt" | "tables" => listTables
  | "d" => describe (if args.isEmpty then none else some text)
  | "search" | "s" => search text
  | "tree" => tree
  | "reset" => reset
  | "save" => save
  | "export" =>
    exportTable <| (splitAtBlank? args).map fun a =>
      (String.ofList a.1, String.ofList (trimChars a.2))
  | "timing" | "t" => timing
  | "format" | "f" => format (if args.isEmpty then "table" else text)
  | "i" | "include" => runFile text
  | _ => unknown name

/-- Reads a command.  The backslash in front of its name may be missing. -/
def parse (line : String) : Command :=
  let cs := trimChars line.toList
  let cs := if cs.head? = some '\\' then cs.tail else cs
  match splitAtBlank? cs with
  | some (name, args) => ofName (lowerCase (String.ofList name)) (trimChars args)
  | none => ofName (lowerCase (String.ofList cs)) []

end Command

/-- `isComment line` says the first characters of `line` that are not blank are two dashes. -/
def isComment (line : String) : Bool :=
  ['-', '-'].isPrefixOf (line.toList.dropWhile isBlank)

/-- A file of statements without its comment lines. -/
def stripComments (content : String) : String :=
  "\n".intercalate ((lines content).filter fun line => !isComment line)

end DogRegistry
