import DogRegistry.Statement.Tuples
import DogRegistry.Text.Split

/-!
# Insert statements

The one kind of statement, `INSERT INTO table … VALUES (…), (…)`.  Keywords may be written in
any case, and whatever stands between the table and the keyword `VALUES` is skipped.

## Main definitions

* `statements submission` — the statements of a submission, which are separated by semicolons.
* `InsertStatement` — a table name and value tuples.
* `InsertStatement.toText`, `InsertStatement.parse` — the written form and its reader.
-/

namespace DogRegistry

open Text

/-- The statements of a submission, without the blanks around them and without blank ones. -/
def statements (submission : String) : List String :=
  ((splitAtChar ';' submission).map trim).filter fun s => !s.isEmpty

/-- What keeps a text from being a statement. -/
inductive SyntaxError
  /-- It does not begin with `INSERT INTO`. -/
  | notAnInsert
  /-- Its header has another form. -/
  | malformed
  /-- No group of values follows the header. -/
  | noTuples
  deriving DecidableEq, Repr

/-- The wording of the error. -/
def SyntaxError.message : SyntaxError → String
  | notAnInsert => "statement must begin with INSERT INTO"
  | malformed => "malformed statement, expected INSERT INTO <table> VALUES (...)"
  | noTuples => "no value tuples found, expected (value1, value2, ...)"

/-- An insert statement. -/
structure InsertStatement where
  /-- The table as it was written. -/
  table : String
  /-- The values of every row. -/
  tuples : List (List String)
  deriving DecidableEq, Repr

namespace InsertStatement

/-- A tuple the way it is written. -/
def tupleText (values : List String) : String :=
  "(" ++ ", ".intercalate values ++ ")"

/-- The statement the way it is written. -/
def toText (s : InsertStatement) : String :=
  s!"INSERT INTO {s.table} VALUES " ++ ", ".intercalate (s.tuples.map tupleText)

/-- `beginsInsert cs` says `cs` begins with the words `INSERT INTO`, in any case and with a single
space between them. -/
def beginsInsert (cs : List Char) : Bool :=
  equalsIgnoringAsciiCase (cs.take "INSERT INTO".length) "INSERT INTO".toList

/-- The table that a header names and the text behind its keyword `VALUES`. -/
def header? (cs : List Char) : Option (String × List Char) := do
  let (insert, c) ← (Cursor.start cs).next?
  let (into, c) ← c.next?
  let (table, c) ← c.next?
  if insert.isKeyword "INSERT" && into.isKeyword "INTO" && table.kind == .word then
    let c ← c.afterKeyword? "VALUES"
    return (table.text, c.rest)
  else
    none

/-- Reads a statement whose blanks around it are removed. -/
def parseChars (cs : List Char) : Except SyntaxError InsertStatement :=
  if !beginsInsert cs then .error .notAnInsert
  else
    match header? cs with
    | none => .error .malformed
    | some (table, rest) =>
      if tuplesOfChars rest = [] then .error .noTuples else .ok ⟨table, tuplesOfChars rest⟩

/-- Reads a statement. -/
def parse (s : String) : Except SyntaxError InsertStatement :=
  parseChars (trimChars s.toList)

end InsertStatement

end DogRegistry
