import DogRegistry.Engine.Search
import DogRegistry.Json.Value
import DogRegistry.Report.BoxTable
import DogRegistry.Report.Csv

/-!
# Reports

The written forms of logs, rows, indexes and traces: as drawn tables, as JSON, or as comma-separated
values.

## Main definitions

* `OutputFormat` — the three forms.
* `formatRecords`, `formatGrid`, `formatRows` — the forms of a log and of rows.
* `formatTree` — the form of an index, which is an outline or JSON.
* `formatTraceStep` — a numbered step of a search.
-/

namespace DogRegistry

open Text

/-! ### Output formats -/

/-- The forms a report is written in. -/
inductive OutputFormat
  /-- A drawn table. -/
  | table
  /-- JSON. -/
  | json
  /-- Comma-separated values. -/
  | csv
  deriving DecidableEq, Repr, Inhabited

/-- A name that no output format has. -/
structure UnknownFormat where
  /-- The name in lower case, without the blanks around it. -/
  name : String
  deriving DecidableEq, Repr

/-- The wording of the error. -/
def UnknownFormat.message (e : UnknownFormat) : String :=
  s!"unknown format '{e.name}', available: table, json, csv"

namespace OutputFormat

/-- The written name of a format. -/
def label : OutputFormat → String
  | table => "table"
  | json => "json"
  | csv => "csv"

/-- The format with exactly the given name. -/
def ofLabel? : String → Option OutputFormat
  | "table" => some table
  | "json" => some json
  | "csv" => some csv
  | _ => none

/-- The format with the given name, in any case and with blanks around it. -/
def parse (s : String) : Except UnknownFormat OutputFormat :=
  let name := lowerCase (trim s)
  match ofLabel? name with
  | some f => .ok f
  | none => .error ⟨name⟩

@[simp] theorem ofLabel?_label (f : OutputFormat) : ofLabel? f.label = some f := by
  cases f <;> rfl

end OutputFormat

/-! ### JSON forms -/

/-- A member of an object, if there is a value for it. -/
def Json.optional (name : String) (value : Option Json) : List (String × Json) :=
  (value.map (name, ·)).toList

/-- A list of texts as JSON. -/
def Json.ofStrings (items : List String) : Json :=
  .arr (items.map .str)

/-- A row identifier as JSON. -/
def RowId.toJson (id : RowId) : Json :=
  .num id.toNat

/-- An entry of a log as JSON. -/
def Record.toJson (r : Record) : Json :=
  .obj <|
    [("command", .str r.command), ("success", .bool r.success), ("message", .str r.message)]
      ++ Json.optional "assigned_id" (r.assignedId.map RowId.toJson)
      ++ Json.optional "error" (r.error.map fun k => .str k.label)

/-- A row as a JSON object, its columns in order and repeated ones kept. -/
def LabeledRow.toJson (r : LabeledRow) : Json :=
  .obj (r.pairs.map fun p => (p.1, .str p.2))

/-- A step of a search as JSON. -/
def TraceStep.toJson (s : TraceStep) : Json :=
  .obj <|
    [("kind", .str s.kind.label), ("message", .str s.message)]
      ++ Json.optional "detail" (s.detail.map .str)

/-- A trace as JSON. -/
def traceToJson (steps : List TraceStep) : Json :=
  .arr (steps.map TraceStep.toJson)

/-- A leaf as JSON. -/
def Leaf.toJson (l : Leaf) : Json :=
  .obj
    [("kind", .str "leaf"), ("keys", Json.ofStrings l.keys),
      ("values", .arr (l.values.map fun ids => .arr (ids.map RowId.toJson)))]

mutual

/-- A node as JSON, with the nodes below it. -/
def Node.toJson : Node → Json
  | .leaf l => l.toJson
  | .internal ks cs =>
    .obj
      [("kind", .str "internal"), ("keys", Json.ofStrings ks),
        ("children", .arr (Node.listToJson cs))]

/-- Some nodes as JSON. -/
def Node.listToJson : List Node → List Json
  | [] => []
  | c :: cs => Node.toJson c :: Node.listToJson cs

end

/-- A tree as JSON. -/
def Tree.toJson (t : Tree) : Json :=
  .obj
    [("root", t.root.toJson), ("order", .num t.config.order),
      ("split_policy", .str t.config.policy.label)]

/-! ### Logs and rows -/

/-- The drawn form of a log: numbered entries. -/
def recordsTable (records : List Record) : BoxTable where
  header := ["#", "status", "command", "message", "id"]
  rows := records.zipIdx.map fun r =>
    [toString (r.2 + 1), if r.1.success then "OK" else "FAILED", r.1.command, r.1.message,
      (r.1.assignedId.map RowId.toText).getD ""]

/-- The header of the comma-separated form of a log. -/
def recordFieldNames : List String :=
  ["command", "success", "message", "assigned_id", "error"]

/-- The fields of an entry in the comma-separated form of a log. -/
def Record.fields (r : Record) : List String :=
  [r.command, toString r.success, r.message, (r.assignedId.map RowId.toText).getD "",
    (r.error.map ErrorKind.label).getD ""]

/-- The form of a log. -/
def formatRecords (records : List Record) : OutputFormat → String
  | .table => (recordsTable records).render
  | .json => (Json.arr (records.map Record.toJson)).pretty
  | .csv => Csv.document (recordFieldNames :: records.map Record.fields)

/-- The JSON form of labelled rows. -/
def rowsJson (rows : List LabeledRow) : String :=
  (Json.arr (rows.map LabeledRow.toJson)).pretty

/-- The form of rows under a header. -/
def formatGrid (header : List String) (rows : List (List String)) : OutputFormat → String
  | .table => (BoxTable.mk header rows).render
  | .json => rowsJson (rows.map (LabeledRow.ofRow header))
  | .csv => Csv.document (header :: rows)

/-- The form of labelled rows, whose columns are those of the first one. -/
def formatRows (rows : List LabeledRow) (format : OutputFormat) : String :=
  if format = .json then rowsJson rows
  else formatGrid ((rows.head?.map LabeledRow.columns).getD []) (rows.map LabeledRow.values) format

/-! ### Indexes and traces -/

mutual

/-- The lines of the outline of a node, `depth` levels below the root. -/
def Node.outline (depth : Nat) : Node → List String
  | .leaf l =>
    if l.keys.isEmpty then [BoxTable.repeated ' ' (2 * depth) ++ "leaf (empty)"]
    else
      (BoxTable.repeated ' ' (2 * depth) ++ "leaf") :: l.entries.map fun e =>
        BoxTable.repeated ' ' (2 * depth + 2) ++ e.1 ++ " -> " ++ bracketed (e.2.map RowId.toText)
  | .internal ks cs =>
    (BoxTable.repeated ' ' (2 * depth) ++ "internal " ++ bracketed ks)
      :: Node.outlineList (depth + 1) cs

/-- The lines of the outlines of some nodes. -/
def Node.outlineList (depth : Nat) : List Node → List String
  | [] => []
  | c :: cs => Node.outline depth c ++ Node.outlineList depth cs

end

/-- The line above the outline of a tree. -/
def Tree.summaryLine (t : Tree) : String :=
  let stats := t.stats
  s!"B+ tree: order {t.config.order}, {t.config.policy.label} split, height {stats.height}, "
    ++ s!"{stats.keyCount} keys, {stats.entryCount} row IDs"

/-- The form of an index: JSON, or an outline with a line feed behind every line. -/
def formatTree (t : Tree) (format : OutputFormat) : String :=
  if format = .json then t.toJson.pretty
  else String.join ((t.summaryLine :: t.root.outline 0).map (· ++ "\n"))

/-- A step of a search with its number, right-aligned in three columns, and the detail on a line of
its own. -/
def formatTraceStep (number : Nat) (s : TraceStep) : String :=
  let digits := toString number
  let head :=
    BoxTable.repeated ' ' (3 - digits.length) ++ digits ++ s!". [{s.kind.label}] {s.message}"
  match s.detail with
  | some detail => head ++ "\n       " ++ detail
  | none => head

/-! ### Counts -/

/-- A count with its noun, which has an `s` unless the count is one. -/
def plural (count : Nat) (noun : String) : String :=
  if count = 1 then s!"1 {noun}" else s!"{count} {noun}s"

end DogRegistry
