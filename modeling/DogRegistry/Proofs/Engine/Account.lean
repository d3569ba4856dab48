import DogRegistry.Proofs.Engine.Submission
import Mathlib.Data.List.Forall2

/-!
# The log as an account

The records of a submission say what has become of the store.  Every statement is answered by one
record for each of its tuples, or by one failure if it is rejected as a whole, and the rows that
have been added are those of the tuples whose records are successes.

## Main definitions

* `Reports t values r` — `r` is a record of a tuple of the table `t`.
* `Answers statement records` — the records are an answer to the statement.
* `storedRow?`, `storedRows`, `accountedRows` — the rows that records account for.
* `Store.Grows` — rows are added to the tables of a store, and nothing else changes.

## Main results

* `Engine.answers_executeStatement` — what a statement is answered with, and the rows it adds.
* `Engine.execute_accounts` — the same for a submission.
-/

namespace DogRegistry

open Text

/-! ### Records of a statement -/

/-- `Reports t values r` says `r` is a record of the tuple `values`, given for the table `t`. -/
inductive Reports : TableName → List String → Record → Prop
  /-- The tuple is rejected. -/
  | failure (t : TableName) (values : List String) (cause : Rejection) :
    Reports t values
      { command := "INSERT INTO " ++ t.label ++ " VALUES (" ++ ", ".intercalate values ++ ")"
        success := false
        message := cause.message
        assignedId := none
        error := some cause.kind }
  /-- The tuple is stored as an owner. -/
  | owner (values : List String) :
    Reports .owners values
      { command := "INSERT INTO owners VALUES (" ++ ", ".intercalate values ++ ")"
        success := true
        message := "inserted into owners"
        assignedId := none
        error := none }
  /-- The tuple is stored as a dog, which is given an identifier. -/
  | dog (breed name owner : String) (id : RowId) :
    Reports .dogs [breed, name, owner]
      { command := "INSERT INTO dogs VALUES (" ++ ", ".intercalate [breed, name, owner] ++ ")"
        success := true
        message := "inserted into dogs with dog_id " ++ id.toText
        assignedId := some id
        error := none }

/-- `Answers statement records` says the records are those that a statement is answered with. -/
inductive Answers (statement : String) : List Record → Prop
  /-- The text is no statement. -/
  | malformed {cause : SyntaxError} (hparse : InsertStatement.parse statement = .error cause) :
    Answers statement
      [{ command := trim statement
         success := false
         message := "syntax error: " ++ cause.message
         assignedId := none
         error := some .malformed }]
  /-- The table of the statement does not exist. -/
  | unknownTable {parsed : InsertStatement} (hparse : InsertStatement.parse statement = .ok parsed)
      (htable : TableName.resolve? parsed.table = none) :
    Answers statement
      [{ command := trim statement
         success := false
         message := "table '" ++ parsed.table ++ "' does not exist"
         assignedId := none
         error := some .unknownTable }]
  /-- Every tuple of the statement has a record, in order. -/
  | tuples {parsed : InsertStatement} {t : TableName} {records : List Record}
      (hparse : InsertStatement.parse statement = .ok parsed)
      (htable : TableName.resolve? parsed.table = some t)
      (hreports : List.Forall₂ (Reports t) parsed.tuples records) : Answers statement records

/-- The row that a tuple is stored as in the table `t`, according to its record: an owner as it was
given, and a dog behind the identifier that it was assigned. -/
def storedRow? (t : TableName) (values : List String) (r : Record) : Option (List String) :=
  match t, r.success, r.assignedId with
  | .owners, true, none => some values
  | .dogs, true, some id => some (id.toText :: values)
  | _, _, _ => none

/-- The rows that tuples are stored as in the table `t`, according to their records. -/
def storedRows (t : TableName) (tuples : List (List String)) (records : List Record) :
    List (List String) :=
  (tuples.zip records).filterMap fun p => storedRow? t p.1 p.2

/-- The rows that a statement adds to the table `t`, according to its records. -/
def accountedRows (t : TableName) (statement : String) (records : List Record) :
    List (List String) :=
  match InsertStatement.parse statement with
  | .error _ => []
  | .ok parsed =>
    match TableName.resolve? parsed.table with
    | none => []
    | some u => if u = t then storedRows u parsed.tuples records else []

theorem storedRows_cons (t : TableName) (values : List String) (tuples : List (List String))
    (r : Record) (records : List Record) :
    storedRows t (values :: tuples) (r :: records) =
      storedRows t [values] [r] ++ storedRows t tuples records := by
  exact List.filterMap_append (l := [(values, r)])

/-! ### Stores that grow -/

/-- `s.Grows s' rows` says `s'` is the store `s` with the rows `rows t` behind those of each table
`t`. -/
def Store.Grows (s s' : Store) (rows : TableName → List (List String)) : Prop :=
  ∀ t, (s'.table t).header = (s.table t).header ∧ (s'.table t).rows = (s.table t).rows ++ rows t

namespace Store.Grows

variable {s s' s'' : Store} {rows rows' : TableName → List (List String)}

theorem refl (s : Store) : s.Grows s fun _ => [] :=
  fun _ => ⟨rfl, (List.append_nil _).symm⟩

theorem trans (h : s.Grows s' rows) (h' : s'.Grows s'' rows') :
    s.Grows s'' fun t => rows t ++ rows' t := by
  intro t
  obtain ⟨hheader, hrows⟩ := h t
  obtain ⟨hheader', hrows'⟩ := h' t
  exact ⟨hheader'.trans hheader, by rw [hrows', hrows, List.append_assoc]⟩

theorem push (s : Store) (row : List String) (t : TableName) :
    s.Grows (s.push row t) fun u => if t = u then [row] else [] := by
  intro u
  by_cases h : t = u
  · simp [← h]
  · simp [h, table_push_of_ne s row fun h' => h h'.symm]

end Store.Grows

namespace Engine

variable (e : Engine)

/-! ### Tuples -/

theorem command_insert (t : TableName) (values : List String) :
    (Attempt.insert t values).command =
      "INSERT INTO " ++ t.label ++ " VALUES (" ++ ", ".intercalate values ++ ")" := by
  rw [Attempt.command, insertCommand, InsertStatement.tupleText, ← String.append_assoc,
    ← String.append_assoc]
  congr 2
  rw [String.append_assoc]
  rfl

/-- A tuple that is rejected is reported as a failure, which accounts for no row. -/
theorem reports_ofRejection (t : TableName) (values : List String) (cause : Rejection) :
    Reports t values (.ofRejection (Attempt.insert t values).command cause) ∧
      storedRows t [values] [.ofRejection (Attempt.insert t values).command cause] = [] := by
  rw [command_insert]
  refine ⟨.failure t values cause, ?_⟩
  cases t with
  | owners => rfl
  | dogs => rfl

/-- A row that is stored is the one that its record accounts for. -/
theorem reports_ofRow {s s' : Store} {t : TableName} {values : List String} {id : Option RowId}
    (h : s.insertRow t values = .ok (s', id)) :
    Reports t values (.ofRow (Attempt.insert t values).command t id) ∧
      storedRows t [values] [.ofRow (Attempt.insert t values).command t id] =
        [numberedRow id values] := by
  obtain ⟨hlength, -, hid, -⟩ := Store.insertRow_eq_ok_iff.1 h
  rw [command_insert]
  cases t with
  | owners =>
    obtain rfl : none = id := Except.ok.inj hid
    exact ⟨.owner values, rfl⟩
  | dogs =>
    obtain ⟨next, -, rfl⟩ := Store.assignId_dogs_eq_ok_iff.1 hid
    obtain ⟨breed, name, owner, rfl⟩ := List.length_eq_three.1 hlength
    exact ⟨.dog breed name owner next, rfl⟩

/-- A tuple leaves a record, and the row that the record accounts for. -/
theorem exists_reports_attempt (s : Store) (t : TableName) (values : List String) :
    ∃ r, (e.attempt s (.insert t values)).records = [r] ∧ Reports t values r ∧
      s.Grows (e.attempt s (.insert t values)).store fun u =>
        if t = u then storedRows t [values] [r] else [] := by
  obtain ⟨cause, ha⟩ | ⟨t', values', id, heq, hstored, ha⟩ := e.attempt_cases s (.insert t values)
  · obtain ⟨hreports, hnone⟩ := reports_ofRejection t values cause
    rw [ha]
    refine ⟨_, rfl, hreports, ?_⟩
    simpa only [hnone, ite_self] using Store.Grows.refl s
  · obtain ⟨rfl, rfl⟩ := Attempt.insert.inj heq
    obtain ⟨hreports, hrow⟩ := reports_ofRow hstored
    rw [ha]
    refine ⟨_, rfl, hreports, ?_⟩
    rw [hrow]
    exact Store.Grows.push s (numberedRow id values) t

/-- So do several tuples of one table. -/
theorem reports_run_insert (s : Store) (t : TableName) (tuples : List (List String)) :
    List.Forall₂ (Reports t) tuples (e.run s (tuples.map (.insert t))).records ∧
      s.Grows (e.run s (tuples.map (.insert t))).store fun u =>
        if t = u then storedRows t tuples (e.run s (tuples.map (.insert t))).records else [] := by
  induction tuples generalizing s with
  | nil =>
    refine ⟨.nil, ?_⟩
    simpa [storedRows] using Store.Grows.refl s
  | cons values tuples ih =>
    obtain ⟨r, hr, hreports, hgrows⟩ := e.exists_reports_attempt s t values
    obtain ⟨hreports', hgrows'⟩ := ih (e.attempt s (.insert t values)).store
    rw [List.map_cons, run_cons, Progress.records_andThen, hr, List.singleton_append,
      storedRows_cons, Progress.store_andThen]
    refine ⟨.cons hreports hreports', fun u => ?_⟩
    obtain ⟨hheader, hrows⟩ := hgrows.trans hgrows' u
    refine ⟨hheader, hrows.trans ?_⟩
    by_cases h : t = u
    · simp [h]
    · simp [h]

/-! ### Statements -/

/-- A statement is answered, and adds the rows that its answer accounts for. -/
theorem answers_executeStatement (s : Store) (statement : String) :
    Answers statement (e.executeStatement s statement).records ∧
      s.Grows (e.executeStatement s statement).store fun t =>
        accountedRows t statement (e.executeStatement s statement).records := by
  rw [executeStatement_eq_run]
  cases hparse : InsertStatement.parse statement with
  | error cause =>
    rw [Attempt.ofStatement_of_error hparse]
    simp only [accountedRows, hparse]
    exact ⟨.malformed hparse, Store.Grows.refl s⟩
  | ok parsed =>
    cases htable : TableName.resolve? parsed.table with
    | none =>
      rw [Attempt.ofStatement_of_none hparse htable]
      simp only [accountedRows, hparse, htable]
      exact ⟨.unknownTable hparse htable, Store.Grows.refl s⟩
    | some t =>
      obtain ⟨hreports, hgrows⟩ := e.reports_run_insert s t parsed.tuples
      rw [Attempt.ofStatement_of_some hparse htable]
      simp only [accountedRows, hparse, htable]
      exact ⟨.tuples hparse htable hreports, hgrows⟩

/-- So are several statements, one after the other. -/
theorem exists_account_run (s : Store) (texts : List String) :
    ∃ account : List (String × List Record),
      account.map Prod.fst = texts ∧
        (e.run s (texts.flatMap Attempt.ofStatement)).records = account.flatMap Prod.snd ∧
        (∀ p ∈ account, Answers p.1 p.2) ∧
        s.Grows (e.run s (texts.flatMap Attempt.ofStatement)).store fun t =>
          account.flatMap fun p => accountedRows t p.1 p.2 := by
  induction texts generalizing s with
  | nil => exact ⟨[], rfl, rfl, by simp, Store.Grows.refl s⟩
  | cons text texts ih =>
    obtain ⟨hanswers, hgrows⟩ := e.answers_executeStatement s text
    simp only [List.flatMap_cons, run_append, ← executeStatement_eq_run, Progress.records_andThen,
      Progress.store_andThen]
    -- of the first statement only what it leaves behind matters to the others
    generalize e.executeStatement s text = p at hanswers hgrows ⊢
    obtain ⟨account, hfst, hrecords, hanswers', hgrows'⟩ := ih p.store
    refine ⟨(text, p.records) :: account, ?_, ?_, ?_, hgrows.trans hgrows'⟩
    · rw [List.map_cons, hfst]
    · rw [List.flatMap_cons, hrecords]
    · exact List.forall_mem_cons.2 ⟨hanswers, hanswers'⟩

/-! ### Submissions -/

/-- The store that a caller holds after a submission is the one that its attempts leave behind. -/
theorem store_execute (s : Store) (index : Tree) (submission : String) :
    (e.execute s index submission).store.getD s = (e.run s (attempts submission)).store :=
  congrArg State.store (e.submit_eq ⟨s, index⟩ submission)

/-- The log of a submission accounts for every change of the store: its records answer the
statements one after the other, no header changes, each table gains the rows that the answers
account for, and a store is returned if and only if some record is a success. -/
theorem execute_accounts (s : Store) (index : Tree) (submission : String) :
    ∃ account : List (String × List Record),
      account.map Prod.fst = statements submission ∧
        (e.execute s index submission).records = account.flatMap Prod.snd ∧
        (∀ p ∈ account, Answers p.1 p.2) ∧
        (∀ t, (((e.execute s index submission).store.getD s).table t).header =
            (s.table t).header ∧
          (((e.execute s index submission).store.getD s).table t).rows =
            (s.table t).rows ++ account.flatMap fun p => accountedRows t p.1 p.2) ∧
        ((e.execute s index submission).store.isSome ↔
          ∃ r ∈ (e.execute s index submission).records, r.success) := by
  obtain ⟨account, hfst, hrecords, hanswers, hgrows⟩ :=
    e.exists_account_run s (statements submission)
  refine ⟨account, hfst, ?_, hanswers, ?_, (e.isSome_execute s index submission).2⟩
  · rw [records_execute]
    exact hrecords
  · rw [store_execute]
    exact hgrows

end Engine

end DogRegistry
