import DogRegistry.Engine.Execute
import DogRegistry.Proofs.Text.Trim

/-!
# Submissions as attempts

A submission is executed statement by statement and every statement tuple by tuple, each with records
and a count of its own.  It comes to the same to list at first what the submission asks for, one
*attempt* for every tuple and one for every statement that is rejected as a whole, and to make these
attempts one after the other.  Statements then no longer matter: a tuple finds the rows of the tuples
before it, in its own statement or in another one.

## Main definitions

* `Attempt`, `attempts submission` — what a submission asks for, in order.
* `Engine.attempt`, `Engine.run` — one attempt, and attempts made one after the other.

## Main results

* `Engine.run_append` — attempts made in two parts are the attempts made in one.
* `Engine.executeStatement_eq_run` — a statement makes its attempts.
* `Engine.foldl_executeNext` — and so do statements, behind what has been done before.
* `Engine.applied_run` — the rows that are counted are those that are reported.
* `Engine.execute_eq` — a submission makes its attempts, and returns what they leave behind if one of
  them is reported as a success.
-/

namespace DogRegistry

open Text

/-! ### Attempts -/

/-- Blanks around a statement make no difference. -/
theorem InsertStatement.parse_trim (statement : String) :
    parse (trim statement) = parse statement := by
  have htrim : trimChars (trim statement).toList = trimChars statement.toList := by
    rw [← toList_trim, trim_trim, toList_trim]
  rw [parse, htrim, parse]

/-- One thing a submission asks for. -/
inductive Attempt
  /-- A statement that is rejected as a whole. -/
  | reject (statement : String) (cause : Rejection)
  /-- A row to store. -/
  | insert (table : TableName) (values : List String)
  deriving DecidableEq, Repr

namespace Attempt

/-- What one statement asks for. -/
def ofStatement (statement : String) : List Attempt :=
  match InsertStatement.parse statement with
  | .error e => [.reject (trim statement) (.malformed e)]
  | .ok s =>
    match TableName.resolve? s.table with
    | none => [.reject (trim statement) (.unknownTable s.table)]
    | some t => s.tuples.map (.insert t)

/-- The command that an attempt is reported under. -/
def command : Attempt → String
  | reject statement _ => statement
  | insert t values => insertCommand t values

section OfStatement

variable {statement : String} {parsed : InsertStatement}

theorem ofStatement_of_error {cause : SyntaxError}
    (hparse : InsertStatement.parse statement = .error cause) :
    ofStatement statement = [.reject (trim statement) (.malformed cause)] := by
  simp only [ofStatement, hparse]

theorem ofStatement_of_none (hparse : InsertStatement.parse statement = .ok parsed)
    (htable : TableName.resolve? parsed.table = none) :
    ofStatement statement = [.reject (trim statement) (.unknownTable parsed.table)] := by
  simp only [ofStatement, hparse, htable]

theorem ofStatement_of_some {t : TableName}
    (hparse : InsertStatement.parse statement = .ok parsed)
    (htable : TableName.resolve? parsed.table = some t) :
    ofStatement statement = parsed.tuples.map (.insert t) := by
  simp only [ofStatement, hparse, htable]

end OfStatement

end Attempt

/-- What a submission asks for, in the order of its statements and tuples. -/
def attempts (submission : String) : List Attempt :=
  (statements submission).flatMap Attempt.ofStatement

/-! ### Progress -/

namespace Progress

@[simp] theorem store_andThen (p q : Progress) : (p.andThen q).store = q.store := rfl

@[simp] theorem index_andThen (p q : Progress) : (p.andThen q).index = q.index.or p.index :=
  Option.orElse_eq_or

@[simp] theorem records_andThen (p q : Progress) :
    (p.andThen q).records = p.records ++ q.records := rfl

@[simp] theorem applied_andThen (p q : Progress) :
    (p.andThen q).applied = p.applied + q.applied := rfl

theorem andThen_assoc (p q r : Progress) : (p.andThen q).andThen r = p.andThen (q.andThen r) := by
  simp [andThen, Option.or_assoc, Nat.add_assoc]

/-- Where nothing is done, all is left as it was. -/
@[simp] theorem andThen_nothing (p : Progress) : p.andThen { store := p.store } = p := by
  simp [andThen]

@[simp] theorem nothing_andThen (s : Store) (p : Progress) :
    Progress.andThen { store := s } p = p := by
  simp [andThen]

end Progress

namespace Engine

variable (e : Engine)

/-! ### Attempts one after the other -/

/-- Makes one attempt. -/
def attempt (s : Store) : Attempt → Progress
  | .reject statement cause => .rejected s statement cause
  | .insert t values => e.insertTuple t { store := s } values

/-- Makes attempts one after the other. -/
def run (s : Store) : List Attempt → Progress
  | [] => { store := s }
  | a :: as => (e.attempt s a).andThen (run (e.attempt s a).store as)

@[simp] theorem run_nil (s : Store) : e.run s [] = { store := s } := rfl

theorem run_cons (s : Store) (a : Attempt) (as : List Attempt) :
    e.run s (a :: as) = (e.attempt s a).andThen (e.run (e.attempt s a).store as) := rfl

theorem run_singleton (s : Store) (a : Attempt) : e.run s [a] = e.attempt s a :=
  Progress.andThen_nothing _

theorem run_append (s : Store) (as bs : List Attempt) :
    e.run s (as ++ bs) = (e.run s as).andThen (e.run (e.run s as).store bs) := by
  induction as generalizing s with
  | nil => rw [List.nil_append, run_nil, Progress.nothing_andThen]
  | cons a as ih =>
    rw [List.cons_append, run_cons, run_cons, ih, Progress.andThen_assoc, Progress.store_andThen]

/-! ### Tuples and statements -/

/-- What is done for a tuple does not depend on what has been done before, but for the store. -/
theorem insertTuple_eq_andThen (t : TableName) (p : Progress) (values : List String) :
    e.insertTuple t p values = p.andThen (e.attempt p.store (.insert t values)) := by
  rw [attempt, insertTuple, insertTuple]
  cases p.store.insertRow t values with
  | error cause => simp [Progress.andThen]
  | ok stored =>
    -- without a new index the last one that was built stays
    cases t.schema.indexColumn.isSome with
    | true => simp [Progress.andThen]
    | false => simp [Progress.andThen]

/-- The tuples of a statement are attempted one after the other. -/
theorem foldl_insertTuple (t : TableName) (p : Progress) (tuples : List (List String)) :
    tuples.foldl (e.insertTuple t) p = p.andThen (e.run p.store (tuples.map (.insert t))) := by
  induction tuples generalizing p with
  | nil => rw [List.foldl_nil, List.map_nil, run_nil, Progress.andThen_nothing]
  | cons values tuples ih =>
    rw [List.foldl_cons, ih, insertTuple_eq_andThen, List.map_cons, run_cons,
      Progress.andThen_assoc, Progress.store_andThen]

/-- A statement makes its attempts. -/
theorem executeStatement_eq_run (s : Store) (statement : String) :
    e.executeStatement s statement = e.run s (Attempt.ofStatement statement) := by
  rw [executeStatement, InsertStatement.parse_trim]
  cases hparse : InsertStatement.parse statement with
  | error cause => rw [Attempt.ofStatement_of_error hparse, run_singleton, attempt]
  | ok parsed =>
    cases htable : TableName.resolve? parsed.table with
    | none =>
      simp only [htable]
      rw [Attempt.ofStatement_of_none hparse htable, run_singleton, attempt]
    | some t =>
      simp only [htable]
      rw [Attempt.ofStatement_of_some hparse htable, foldl_insertTuple, Progress.nothing_andThen]

/-- The statements of a submission make their attempts one after the other, behind what has been
done before. -/
theorem foldl_executeNext (p : Progress) (texts : List String) :
    texts.foldl e.executeNext p =
      p.andThen (e.run p.store (texts.flatMap Attempt.ofStatement)) := by
  induction texts generalizing p with
  | nil => rw [List.foldl_nil, List.flatMap_nil, run_nil, Progress.andThen_nothing]
  | cons text texts ih =>
    rw [List.foldl_cons, ih, executeNext, executeStatement_eq_run, List.flatMap_cons, run_append,
      Progress.andThen_assoc, Progress.store_andThen]

/-! ### Submissions -/

/-- One attempt counts a row if it reports one. -/
theorem applied_attempt (s : Store) (a : Attempt) :
    (e.attempt s a).applied = (e.attempt s a).records.countP Record.success := by
  cases a with
  | reject statement cause => rfl
  | insert t values =>
    rw [attempt, insertTuple]
    cases s.insertRow t values with
    | error cause => rfl
    | ok stored => rfl

/-- Attempts count the rows that they report. -/
theorem applied_run (s : Store) (as : List Attempt) :
    (e.run s as).applied = (e.run s as).records.countP Record.success := by
  induction as generalizing s with
  | nil => rfl
  | cons a as ih =>
    rw [run_cons, Progress.applied_andThen, Progress.records_andThen, List.countP_append, ih,
      applied_attempt]

/-- A submission makes its attempts.  It returns what they leave behind if one of them is reported as
a success. -/
theorem execute_eq (s : Store) (index : Tree) (submission : String) :
    e.execute s index submission =
      if (e.run s (attempts submission)).records.any Record.success then
        ⟨(e.run s (attempts submission)).records, some (e.run s (attempts submission)).store,
          some ((e.run s (attempts submission)).index.getD index)⟩
      else ⟨(e.run s (attempts submission)).records, none, none⟩ := by
  have hrun : (statements submission).foldl e.executeNext { store := s } =
      e.run s (attempts submission) := by
    rw [foldl_executeNext, Progress.nothing_andThen]
    rfl
  have happlied : 0 < (e.run s (attempts submission)).applied ↔
      (e.run s (attempts submission)).records.any Record.success := by
    rw [applied_run, List.countP_pos_iff, List.any_eq_true]
  rw [execute, hrun]
  exact if_congr happlied rfl rfl

end Engine

end DogRegistry
