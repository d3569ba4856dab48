import DogRegistry.Toml.Item
import DogRegistry.Toml.Moment
import DogRegistry.Toml.Number
import DogRegistry.Toml.Quoted

/-!
# Settings texts

A settings text is a row of lines: keys with values, and headers that put the keys after them into a
table.  Values may be nested, and those in brackets may extend over several lines.  The format is
TOML.

## Main definitions

* `value` — the reader of values, nested up to a given depth.
* `Statement`, `statements` — what the lines say, and the reader of all lines.
* `parse?` — the contents of a text; a key or header that is given twice is an error.
-/

namespace DogRegistry.Toml

open Reader

/-! ### Keys -/

/-- `isBareKeyChar c` says `c` may stand in a key without quotes. -/
def isBareKeyChar (c : Char) : Bool :=
  c.isAlphanum || c == '_' || c == '-'

/-- Reads a key without dots, and the blanks around it. -/
def simpleKey : Reader String := do
  blanks
  let name ← quoted <|> String.ofList <$> takeSome isBareKeyChar
  blanks
  return name

/-- The least number of parts that is too large for a key, and the least depth that is too large for
brackets. -/
def depthLimit : Nat := 80

/-- Reads a key, with dots or without. -/
def key : Reader Key := do
  let first ← simpleKey
  let rest ← many do
    char '.'
    simpleKey
  if rest.length + 1 < depthLimit then
    return ⟨(first :: rest).dropLast, rest.getLast?.getD first⟩
  else
    failure

/-! ### Values -/

/-- `isNumberChar c` says `c` may stand in a number or a word. -/
def isNumberChar (c : Char) : Bool :=
  c.isAlphanum || c == '_' || c == '+' || c == '-' || c == '.'

/-- The value that is written with the given characters, none of which is a quote. -/
def ofWord? (cs : List Char) : Option Item :=
  if cs = "true".toList then some (.boolean true)
  else if cs = "false".toList then some (.boolean false)
  else if isSpecial cs then some .fractional
  else
    match integer? cs, Fractional.parse? cs with
    | some n, _ => some (.integer n)
    | none, some x => if x.isTooLarge then none else some .fractional
    | none, none => none

/-- Reads a value without brackets. -/
def scalar : Reader Item :=
  (.text <$> quotedLines)
    <|> (do
      moment
      return .moment)
    <|> do
      let cs ← takeSome isNumberChar
      match ofWord? cs with
      | some item => return item
      | none => failure

/-- Takes a comment up to the end of its line. -/
def comment : Reader Unit := do
  char '#'
  let _ ← takeWhile isTextChar

/-- Takes the blanks, comments and line ends between the values in brackets. -/
def gap : Reader Unit := do
  let _ ← many <|
    (do let _ ← one isBlankChar)
      <|> newline
      <|> do
        comment
        newline

/-- Reads values in brackets, with commas between them and perhaps one behind them. -/
def arrayOf (item : Reader Item) : Reader Item := do
  char '['
  gap
  let items ← optional do
    let first ← item
    gap
    let rest ← many do
      char ','
      gap
      let next ← item
      gap
      return next
    let _ ← optional (char ',')
    gap
    return first :: rest
  char ']'
  return .array (items.getD [])

/-- Reads a key, an equals sign and a value. -/
def entryOf (item : Reader Item) : Reader (Key × Item) := do
  let k ← key
  char '='
  blanks
  return (k, ← item)

/-- Reads keys and values in braces, with commas between them. -/
def tableOf (item : Reader Item) : Reader Item := do
  char '\x7b'
  let entries ← optional do
    let first ← entryOf item
    blanks
    let rest ← many do
      char ','
      let next ← entryOf item
      blanks
      return next
    return first :: rest
  blanks
  char '\x7d'
  match (entries.getD []).foldlM (fun es e => addItem? e.1.name e.2 e.1.path es) [] with
  | some es => return .table .braces es
  | none => failure

/-- Reads a value in which brackets are nested up to a given depth. -/
def value : (depth : Nat) → Reader Item
  | 0 => scalar
  | depth + 1 => arrayOf (value depth) <|> tableOf (value depth) <|> scalar

/-! ### Lines -/

/-- What a line says. -/
inductive Statement
  /-- An item stands under a key of the current table. -/
  | entry (key : Key) (item : Item)
  /-- A new table begins. -/
  | table (key : Key)
  /-- One of several tables with one name begins. -/
  | element (key : Key)
  deriving Repr

/-- Reads a header. -/
def header : Reader Statement :=
  (do
    exactly ['[', '[']
    let k ← key
    exactly [']', ']']
    return .element k)
    <|> do
      char '['
      let k ← key
      char ']'
      return .table k

/-- Reads a line with its end.  A line that is blank but for a comment says nothing. -/
def line : Reader (Option Statement) := do
  blanks
  let statement ← optional <| header <|> do
    let (k, item) ← entryOf (value (depthLimit - 1))
    return .entry k item
  blanks
  let _ ← optional comment
  newline <|> atEnd
  return statement

/-- Reads all lines of a text, which may begin with a byte order mark. -/
def statements : Reader (List Statement) := do
  let _ ← optional (char '\ufeff')
  let lines ← many line
  atEnd
  return lines.filterMap id

/-! ### Documents -/

/-- The contents of the lines read so far. -/
structure Document where
  /-- The keys in front of the first header, and the tables. -/
  root : Entries := []
  /-- The path to the current table. -/
  current : List String := []
  deriving Repr

/-- The document with one more line. -/
def Document.add? (d : Document) : Statement → Option Document
  | .entry k item => do
    return { d with root := ← atTable? (addItem? k.name item k.path) d.current d.root }
  | .table k => do
    return { root := ← atTable? (addTable? k.name) k.path d.root, current := k.path ++ [k.name] }
  | .element k => do
    return { root := ← atTable? (addElement? k.name) k.path d.root, current := k.path ++ [k.name] }

/-- The contents of a text. -/
def parse? (text : String) : Option Entries := do
  let (lines, _) ← statements.run text.toList
  let d ← lines.foldlM Document.add? {}
  return d.root

end DogRegistry.Toml
