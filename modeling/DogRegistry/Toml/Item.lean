/-!
# Contents of settings texts

A settings text is a table of keys with values, some of which are tables again.  A table remembers
how it came about, because that decides what later lines may add to it.

## Main definitions

* `Origin`, `Item`, `Entries` — the contents of a text.
* `atTable?` — changes the table that a header names.
* `addTable?`, `addElement?`, `addItem?` — what the lines of a text do to a table.
-/

namespace DogRegistry.Toml

/-- How a table came about. -/
inductive Origin
  /-- A header names it. -/
  | header
  /-- The header of a table inside it names it. -/
  | implied
  /-- A key with dots leads through it. -/
  | dotted
  /-- It stands in braces. -/
  | braces
  deriving DecidableEq, Repr

/-- What stands under a key. -/
inductive Item
  /-- A text. -/
  | text (s : String)
  /-- An integer of 64 bits. -/
  | integer (n : Int)
  /-- A number with a fraction or an exponent, or a special one. -/
  | fractional
  /-- A truth value. -/
  | boolean (b : Bool)
  /-- A date, a time or both. -/
  | moment
  /-- Values in brackets. -/
  | array (items : List Item)
  /-- A table. -/
  | table (origin : Origin) (entries : List (String × Item))
  /-- The tables of several headers with one name. -/
  | tables (before : List (List (String × Item))) (last : List (String × Item))
  deriving Repr, Inhabited

/-- The keys of a table with what stands under them. -/
abbrev Entries := List (String × Item)

/-- The entries with another item under a key, which comes last if it is new. -/
def setEntry (key : String) (item : Item) : Entries → Entries
  | [] => [(key, item)]
  | e :: es => if e.1 = key then (key, item) :: es else e :: setEntry key item es

/-! ### Headers -/

/-- Changes the table that a path of keys leads to.  Tables that do not exist come about, of several
tables with one name the path goes through the last one, and values cannot be entered. -/
def atTable? (change : Entries → Option Entries) : List String → Entries → Option Entries
  | [], es => change es
  | key :: path, es => do
    let item ←
      match es.lookup key with
      | none => (atTable? change path []).map (.table .implied)
      | some (.table .braces _) => none
      | some (.table origin sub) => (atTable? change path sub).map (.table origin)
      | some (.tables before last) => (atTable? change path last).map (.tables before)
      | some _ => none
    return setEntry key item es

/-- Adds a table that a header names.  It may exist already if no header or key has named it. -/
def addTable? (key : String) (es : Entries) : Option Entries :=
  match es.lookup key with
  | none => some (setEntry key (.table .header []) es)
  | some (.table .implied sub) => some (setEntry key (.table .header sub) es)
  | some _ => none

/-- Adds one of several tables with one name. -/
def addElement? (key : String) (es : Entries) : Option Entries :=
  match es.lookup key with
  | none => some (setEntry key (.tables [] []) es)
  | some (.tables before last) => some (setEntry key (.tables (before ++ [last]) []) es)
  | some _ => none

/-! ### Keys -/

/-- A key with dots: the keys of the tables that it leads through, and the last one. -/
structure Key where
  /-- The keys of the tables. -/
  path : List String
  /-- The key in the last of them. -/
  name : String
  deriving DecidableEq, Repr

/-- Adds an item under a new key.  The path leads through tables without a header, and ends in one
that only keys with dots have named. -/
def addItem? (name : String) (item : Item) : List String → Entries → Option Entries
  | [], es => if (es.lookup name).isNone then some (setEntry name item es) else none
  | key :: path, es => do
    let found ←
      match es.lookup key with
      | none => (addItem? name item path []).map (.table .dotted)
      | some (.table .dotted sub) => (addItem? name item path sub).map (.table .dotted)
      | some (.table .implied sub) =>
        if path.isEmpty then none else (addItem? name item path sub).map (.table .implied)
      | some (.tables before last) =>
        if path.isEmpty then none else (addItem? name item path last).map (.tables before)
      | some _ => none
    return setEntry key found es

end DogRegistry.Toml
