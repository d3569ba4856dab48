import DogRegistry.Statement.Insert
import DogRegistry.Store

/-!
# The log of a submission

Every tuple of a submission, and every statement that is rejected as a whole, leaves one record in
the log.  A rejection does not stop the submission.

## Main definitions

* `Rejection` — why a statement or tuple is rejected.
* `ErrorKind` — the classes of rejections.
* `Record` — an entry of the log.
-/

namespace DogRegistry

/-! ### Rejections -/

/-- The classes of rejections. -/
inductive ErrorKind
  /-- The text is no statement. -/
  | malformed
  /-- The table does not exist. -/
  | unknownTable
  /-- The number of values is wrong. -/
  | arity
  /-- The row agrees with a stored one. -/
  | duplicate
  /-- No row identifier is left. -/
  | exhausted
  deriving DecidableEq, Repr, Inhabited

namespace ErrorKind

/-- The written name of a class. -/
def label : ErrorKind → String
  | malformed => "syntax"
  | unknownTable => "schema"
  | arity => "arity"
  | duplicate => "uniqueness"
  | exhausted => "id_exhausted"

/-- The class with the given name. -/
def ofLabel? : String → Option ErrorKind
  | "syntax" => some malformed
  | "schema" => some unknownTable
  | "arity" => some arity
  | "uniqueness" => some duplicate
  | "id_exhausted" => some exhausted
  | _ => none

@[simp] theorem ofLabel?_label (k : ErrorKind) : ofLabel? k.label = some k := by
  cases k <;> rfl

end ErrorKind

/-- Why a statement or tuple is rejected. -/
inductive Rejection
  /-- The text is no statement. -/
  | malformed (cause : SyntaxError)
  /-- No table goes by this name. -/
  | unknownTable (name : String)
  /-- The tuple has another number of values than there are columns. -/
  | arity (table : TableName) (columns : List String) (received : Nat)
  /-- The row agrees with a stored one on all columns of a constraint. -/
  | duplicate (table : TableName) (constraint : UniqueConstraint) (row : List String)
  /-- The newest row has the largest identifier. -/
  | exhausted (table : TableName)
  deriving DecidableEq, Repr

/-- The values of a row that a stored row already has, in words. -/
def UniqueConstraint.describe (u : UniqueConstraint) (columns row : List String) : String :=
  let parts := u.columns.map fun c => (columns[c.index]?.getD "?", row[c.index]?.getD "")
  match parts with
  | [] => "duplicate row"
  | (name, value) :: rest =>
    let others := rest.map fun p => p.1 ++ " " ++ p.2
    s!"{name} '{value}' already exists"
      ++ if others.isEmpty then "" else " for " ++ " and ".intercalate others

namespace Rejection

/-- The class of a rejection. -/
def kind : Rejection → ErrorKind
  | malformed _ => .malformed
  | unknownTable _ => .unknownTable
  | arity _ _ _ => .arity
  | duplicate _ _ _ => .duplicate
  | exhausted _ => .exhausted

/-- The wording of a rejection. -/
def message : Rejection → String
  | malformed cause => s!"syntax error: {cause.message}"
  | unknownTable name => s!"table '{name}' does not exist"
  | arity table columns received =>
    let names := ", ".intercalate columns
    s!"column count mismatch for {table.label}: expected {columns.length} values ({names}), "
      ++ s!"received {received}"
  | duplicate table constraint row =>
    let conflict := constraint.describe table.schema.columns row
    s!"uniqueness violation in {table.label}: {conflict}"
  | exhausted table =>
    let column := table.schema.columns.headD "?"
    s!"cannot assign {column} in {table.label}: no ID follows {RowId.last.toText}"

end Rejection

/-! ### Records -/

/-- An entry of the log. -/
structure Record where
  /-- The command that the entry is about. -/
  command : String
  /-- Whether a row was stored. -/
  success : Bool
  /-- What happened, in words. -/
  message : String
  /-- The identifier that the row was given. -/
  assignedId : Option RowId := none
  /-- The class of the rejection. -/
  error : Option ErrorKind := none
  deriving DecidableEq, Repr

namespace Record

/-- The entry for a rejected command. -/
def ofRejection (command : String) (r : Rejection) : Record where
  command := command
  success := false
  message := r.message
  error := some r.kind

/-- The entry for a stored row. -/
def ofRow (command : String) (table : TableName) (id : Option RowId) : Record where
  command := command
  success := true
  message :=
    match id with
    | some id =>
      let column := table.schema.columns.headD "?"
      s!"inserted into {table.label} with {column} {id.toText}"
    | none => s!"inserted into {table.label}"
  assignedId := id

@[simp] theorem success_ofRejection (command : String) (r : Rejection) :
    (ofRejection command r).success = false := rfl

@[simp] theorem success_ofRow (command : String) (t : TableName) (id : Option RowId) :
    (ofRow command t id).success = true := rfl

end Record

end DogRegistry
