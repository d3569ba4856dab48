import DogRegistry.Proofs.Engine.Attempt
import Mathlib.Data.Option.Basic

/-!
# Runs of submissions

A caller holds a store and an index, and takes over what a submission returns of the two.  The index
is only built anew where the indexed table has gained a row, yet it is the index over the current
store after every submission.

## Main definitions

* `State` — what a caller holds, with `State.adopt` for what a submission returns.
* `Engine.start`, `Engine.submit`, `Engine.submitAll` — the first state, and those after one
  submission and after several.
* `Engine.log` — the records of several submissions.
* `Engine.storeAt` — the store in which one of their attempts is made.

## Main results

* `Store.insertRow_eq_ok_iff`, `Store.insertRow_eq_error_iff` — when a tuple is stored, and as which
  row, and for what reasons it is rejected.
* `Engine.attempt_cases` — what one attempt can do.
* `Engine.run_induction`, `Engine.submitAll_induction` — what every stored row keeps is kept by
  attempts and by submissions.
* `Engine.getElem?_log_eq_some_iff` — which attempt a record belongs to.
* `Engine.store_submitAll` — the store after submissions is that after all of their attempts.
* `Engine.getD_index_run` — attempts keep the index in step with the store.
* `Engine.index_submitAll` — so do submissions.
* `Engine.index_in_step` — from a fresh index on, the index is never out of date.
-/

namespace DogRegistry

open Text

/-! ### One tuple -/

/-- A tuple is stored if it has as many values as there are columns, agrees with no row that is
there, and can be given an identifier. -/
theorem Store.insertRow_eq_ok_iff {s s' : Store} {t : TableName} {values : List String}
    {id : Option RowId} :
    s.insertRow t values = .ok (s', id) ↔
      values.length = (s.expectedColumns t).length ∧
        s.violated? t (candidateRow t values) = none ∧ s.assignId t = .ok id ∧
        s' = s.push (numberedRow id values) t := by
  rw [insertRow]
  by_cases hlen : values.length = (s.expectedColumns t).length
  · rw [if_neg (not_not_intro hlen)]
    cases hviolated : s.violated? t (candidateRow t values) with
    | some u => simp
    | none =>
      cases hid : s.assignId t with
      | error cause => simp
      | ok id' =>
        simp only [Except.ok.injEq, Prod.mk.injEq, hlen, true_and]
        constructor
        · rintro ⟨rfl, rfl⟩
          exact ⟨rfl, rfl⟩
        · rintro ⟨rfl, rfl⟩
          exact ⟨rfl, rfl⟩
  · rw [if_pos hlen]
    simp [hlen]

/-- A tuple is rejected for the first of these reasons: it has another number of values, it agrees
with a row that is there, or it cannot be given an identifier. -/
theorem Store.insertRow_eq_error_iff {s : Store} {t : TableName} {values : List String}
    {cause : Rejection} :
    s.insertRow t values = .error cause ↔
      (values.length ≠ (s.expectedColumns t).length ∧
          cause = .arity t (s.expectedColumns t) values.length) ∨
        values.length = (s.expectedColumns t).length ∧
          ((∃ u, s.violated? t (candidateRow t values) = some u ∧
              cause = .duplicate t u (candidateRow t values)) ∨
            s.violated? t (candidateRow t values) = none ∧ s.assignId t = .error cause) := by
  rw [insertRow]
  by_cases hlen : values.length = (s.expectedColumns t).length
  · rw [if_neg (not_not_intro hlen)]
    cases hviolated : s.violated? t (candidateRow t values) with
    | some u => simp [hlen, eq_comm]
    | none =>
      cases hid : s.assignId t with
      | error cause' => simp [hlen]
      | ok id => simp [hlen]
  · rw [if_pos hlen]
    simp [hlen, eq_comm]

/-- The dogs are given the identifier that comes next. -/
theorem Store.assignId_dogs_eq_ok_iff {s : Store} {id : Option RowId} :
    s.assignId .dogs = .ok id ↔
      ∃ next, (s.table .dogs).nextRowId? = some next ∧ id = some next := by
  have hauto : TableName.dogs.schema.autoIncrement := rfl
  rw [assignId, if_pos hauto]
  cases (s.table .dogs).nextRowId? with
  | none => simp
  | some next => simp [eq_comm]

/-- An identifier is only refused where none is left. -/
theorem Store.eq_exhausted_of_assignId {s : Store} {t : TableName} {cause : Rejection}
    (h : s.assignId t = .error cause) : cause = .exhausted t := by
  rw [assignId] at h
  split at h
  · split at h
    · exact absurd h (by simp)
    · exact (Except.error.inj h).symm
  · exact absurd h (by simp)

/-- The dogs have one constraint, which a row violates if it conflicts with a dog that is there. -/
theorem Store.violated?_dogs (s : Store) (candidate : List String) :
    s.violated? .dogs candidate =
      if s.dogs.rows.any fun row => dogsNameOwner.conflicts row candidate then
        some dogsNameOwner
      else none :=
  List.find?_singleton

theorem Store.violated?_dogs_eq_none_iff {s : Store} {candidate : List String} :
    s.violated? .dogs candidate = none ↔
      ∀ row ∈ s.dogs.rows, dogsNameOwner.conflicts row candidate = false := by
  have hany : (s.dogs.rows.any fun row => dogsNameOwner.conflicts row candidate) = false ↔
      ∀ row ∈ s.dogs.rows, dogsNameOwner.conflicts row candidate = false := by
    simp only [List.any_eq_false, Bool.not_eq_true]
  rw [violated?_dogs, ← hany]
  split
  next h => simp [h]
  next h => simp [h]

namespace Engine

variable (e : Engine)

/-- A tuple that is rejected leaves everything as it is, and the cause is reported. -/
theorem attempt_insert_of_error {s : Store} {t : TableName} {values : List String}
    {cause : Rejection} (h : s.insertRow t values = .error cause) :
    e.attempt s (.insert t values) =
      ⟨s, none, [.ofRejection (insertCommand t values) cause], 0⟩ := by
  simp only [attempt, insertTuple, h, List.nil_append]

/-- A tuple that is stored is reported with its identifier, and the index is built anew if the table
is indexed. -/
theorem attempt_insert_of_ok {s s' : Store} {t : TableName} {values : List String}
    {id : Option RowId} (h : s.insertRow t values = .ok (s', id)) :
    e.attempt s (.insert t values) =
      ⟨s', if t.schema.indexColumn.isSome then some (e.rebuildIndex s') else none,
        [.ofRow (insertCommand t values) t id], 1⟩ := by
  simp only [attempt, insertTuple, h, List.nil_append, Nat.zero_add]

/-- An attempt leaves everything as it is and reports a failure, or stores one row, reports that,
and builds the index anew if the table is indexed. -/
theorem attempt_cases (s : Store) (a : Attempt) :
    (∃ cause, e.attempt s a = ⟨s, none, [.ofRejection a.command cause], 0⟩) ∨
      ∃ t values id, a = .insert t values ∧
        s.insertRow t values = .ok (s.push (numberedRow id values) t, id) ∧
        e.attempt s a = ⟨s.push (numberedRow id values) t,
          if t.schema.indexColumn.isSome then
            some (e.rebuildIndex (s.push (numberedRow id values) t))
          else none,
          [.ofRow a.command t id], 1⟩ := by
  cases a with
  | reject statement cause => exact .inl ⟨cause, rfl⟩
  | insert t values =>
    cases hinsert : s.insertRow t values with
    | error cause => exact .inl ⟨cause, e.attempt_insert_of_error hinsert⟩
    | ok stored =>
      obtain ⟨s', id⟩ := stored
      obtain ⟨-, -, -, rfl⟩ := Store.insertRow_eq_ok_iff.1 hinsert
      exact .inr ⟨t, values, id, rfl, hinsert, e.attempt_insert_of_ok hinsert⟩

/-- Attempts that all fail leave the store as it is and build no index. -/
theorem run_of_forall_failure (s : Store) (as : List Attempt)
    (h : ∀ r ∈ (e.run s as).records, r.success = false) :
    (e.run s as).store = s ∧ (e.run s as).index = none := by
  induction as generalizing s with
  | nil => exact ⟨rfl, rfl⟩
  | cons a as ih =>
    rw [run_cons] at h ⊢
    obtain ⟨cause, ha⟩ | ⟨t, values, id, -, -, ha⟩ := e.attempt_cases s a
    · rw [ha] at h ⊢
      obtain ⟨hstore, hindex⟩ := ih s fun r hr => h r (List.mem_cons_of_mem _ hr)
      exact ⟨hstore, by rw [Progress.index_andThen, hindex]; rfl⟩
    · -- an attempt that stores a row is reported as a success
      rw [ha] at h
      exact absurd (h _ List.mem_cons_self) (by simp)

/-- What every row that is stored keeps is kept by attempts made one after the other. -/
theorem run_induction {P : Store → Prop} {as : List Attempt}
    (hinsert : ∀ s t values s' id, Attempt.insert t values ∈ as → P s →
      s.insertRow t values = .ok (s', id) → P s') {s : Store} (hs : P s) :
    P (e.run s as).store := by
  induction as generalizing s with
  | nil => exact hs
  | cons a as ih =>
    refine ih (fun s t values s' id hmem => hinsert s t values s' id (.tail a hmem)) ?_
    obtain ⟨cause, ha⟩ | ⟨t, values, id, rfl, hstored, ha⟩ := e.attempt_cases s a
    · rw [ha]
      exact hs
    · rw [ha]
      exact hinsert s t values _ id List.mem_cons_self hs hstored

/-- Rows are only ever added behind those that are there. -/
theorem prefix_rows_run (s : Store) (as : List Attempt) (t : TableName) :
    (s.table t).rows <+: ((e.run s as).store.table t).rows := by
  refine e.run_induction (P := fun s' => (s.table t).rows <+: (s'.table t).rows) ?_
    (List.prefix_refl _)
  intro s₁ u values s₂ id _ hprefix hstored
  obtain ⟨-, -, -, rfl⟩ := Store.insertRow_eq_ok_iff.1 hstored
  by_cases htu : t = u
  · rw [htu, Store.table_push_self, Table.rows_push, ← htu]
    exact hprefix.trans (List.prefix_append _ _)
  · rw [Store.table_push_of_ne _ _ htu]
    exact hprefix

/-! ### The records -/

/-- Every attempt leaves one record. -/
theorem exists_records_attempt (s : Store) (a : Attempt) :
    ∃ r, (e.attempt s a).records = [r] := by
  obtain ⟨cause, ha⟩ | ⟨t, values, id, -, -, ha⟩ := e.attempt_cases s a
  · exact ⟨_, congrArg Progress.records ha⟩
  · exact ⟨_, congrArg Progress.records ha⟩

/-- The record at some position is the one that the attempt there leaves, made in the store that the
attempts before it leave behind. -/
theorem getElem?_records_run_eq_some_iff {s : Store} {as : List Attempt} {i : Nat} {r : Record} :
    (e.run s as).records[i]? = some r ↔
      ∃ a, as[i]? = some a ∧ (e.attempt (e.run s (as.take i)).store a).records = [r] := by
  induction as generalizing s i with
  | nil => simp
  | cons a as ih =>
    obtain ⟨first, hfirst⟩ := e.exists_records_attempt s a
    rw [run_cons, Progress.records_andThen, hfirst, List.singleton_append]
    cases i with
    | zero => simp [hfirst]
    | succ i => exact ih

/-! ### The index -/

/-- The index depends on the indexed table alone. -/
theorem rebuildIndex_congr {s s' : Store} (h : s.table indexedTable = s'.table indexedTable) :
    e.rebuildIndex s = e.rebuildIndex s' := by
  simp only [rebuildIndex, h]

/-- A row of another table does not change the index. -/
theorem rebuildIndex_push {t : TableName} (h : t.schema.indexColumn.isSome = false) (s : Store)
    (row : List String) : e.rebuildIndex (s.push row t) = e.rebuildIndex s := by
  refine e.rebuildIndex_congr (Store.table_push_of_ne s row ?_)
  rintro rfl
  exact absurd h (by decide)

/-- An attempt keeps the index in step with the store. -/
theorem getD_index_attempt (s : Store) (a : Attempt) :
    (e.attempt s a).index.getD (e.rebuildIndex s) = e.rebuildIndex (e.attempt s a).store := by
  obtain ⟨cause, ha⟩ | ⟨t, values, id, -, -, ha⟩ := e.attempt_cases s a
  · rw [ha]
    rfl
  · rw [ha]
    cases hindexed : t.schema.indexColumn.isSome with
    | true => rfl
    | false => exact (e.rebuildIndex_push hindexed s _).symm

/-- So do attempts made one after the other: the last index that was built is the one over the final
store, and if none was built the first one still is. -/
theorem getD_index_run (s : Store) (as : List Attempt) :
    (e.run s as).index.getD (e.rebuildIndex s) = e.rebuildIndex (e.run s as).store := by
  induction as generalizing s with
  | nil => rfl
  | cons a as ih =>
    rw [run_cons, Progress.index_andThen, Option.getD_or, Progress.store_andThen]
    -- the later attempts start with the index that the first one leaves in step
    rw [e.getD_index_attempt s a, ih]

end Engine

/-! ### What a caller holds -/

/-- What a caller holds between submissions. -/
structure State where
  /-- The current store. -/
  store : Store
  /-- The current index. -/
  index : Tree
  deriving DecidableEq, Repr

/-- The state with the store and the index that a submission returns, as far as there are any. -/
def State.adopt (st : State) (x : Execution) : State :=
  ⟨x.store.getD st.store, x.index.getD st.index⟩

namespace Engine

variable (e : Engine)

/-- The state that begins with a store. -/
def start (s : Store) : State :=
  ⟨s, e.rebuildIndex s⟩

/-- The state after a submission. -/
def submit (st : State) (submission : String) : State :=
  st.adopt (e.execute st.store st.index submission)

/-- The state after submissions made one after the other. -/
def submitAll (st : State) (submissions : List String) : State :=
  submissions.foldl e.submit st

/-- A submission returns a store and an index, or neither. -/
theorem isSome_execute (s : Store) (index : Tree) (submission : String) :
    ((e.execute s index submission).index.isSome ↔ (e.execute s index submission).store.isSome) ∧
      ((e.execute s index submission).store.isSome ↔
        ∃ r ∈ (e.execute s index submission).records, r.success) := by
  rw [execute_eq]
  split
  next h => exact ⟨Iff.rfl, iff_of_true rfl (List.any_eq_true.1 h)⟩
  next h => exact ⟨Iff.rfl, iff_of_false Bool.false_ne_true fun h' => h (List.any_eq_true.2 h')⟩

/-- What a caller holds after a submission is what its attempts leave behind. -/
theorem submit_eq (st : State) (submission : String) :
    e.submit st submission = ⟨(e.run st.store (attempts submission)).store,
      (e.run st.store (attempts submission)).index.getD st.index⟩ := by
  rw [submit, execute_eq]
  split
  next => rfl
  next h =>
    -- nothing is returned, and nothing has changed
    obtain ⟨hstore, hindex⟩ := e.run_of_forall_failure st.store (attempts submission) fun r hr =>
      Bool.eq_false_iff.2 fun hsuccess => h (List.any_eq_true.2 ⟨r, hr, hsuccess⟩)
    rw [hstore, hindex]
    rfl

/-- The store after submissions is the one that all of their attempts leave behind. -/
theorem store_submitAll (st : State) (submissions : List String) :
    (e.submitAll st submissions).store =
      (e.run st.store (submissions.flatMap attempts)).store := by
  induction submissions generalizing st with
  | nil => rfl
  | cons submission submissions ih =>
    show (e.submitAll (e.submit st submission) submissions).store = _
    rw [ih, submit_eq, List.flatMap_cons, run_append, Progress.store_andThen]

/-- What every row that is stored keeps is kept by submissions made one after the other. -/
theorem submitAll_induction {P : Store → Prop} {submissions : List String}
    (hinsert : ∀ s t values s' id, Attempt.insert t values ∈ submissions.flatMap attempts → P s →
      s.insertRow t values = .ok (s', id) → P s') {st : State} (hs : P st.store) :
    P (e.submitAll st submissions).store := by
  rw [store_submitAll]
  exact e.run_induction hinsert hs

/-- The records of submissions made one after the other. -/
def log (st : State) : List String → List Record
  | [] => []
  | submission :: submissions =>
    (e.execute st.store st.index submission).records ++ log (e.submit st submission) submissions

/-- The records of a submission are those of its attempts. -/
theorem records_execute (s : Store) (index : Tree) (submission : String) :
    (e.execute s index submission).records = (e.run s (attempts submission)).records := by
  rw [execute_eq]
  split
  next => rfl
  next => rfl

/-- The records of submissions are those of all of their attempts. -/
theorem log_eq (st : State) (submissions : List String) :
    e.log st submissions = (e.run st.store (submissions.flatMap attempts)).records := by
  induction submissions generalizing st with
  | nil => rfl
  | cons submission submissions ih =>
    rw [log, ih, records_execute, submit_eq, List.flatMap_cons, run_append,
      Progress.records_andThen]

/-- The store in which the attempt at some position of submissions is made. -/
def storeAt (st : State) (submissions : List String) (i : Nat) : Store :=
  (e.run st.store ((submissions.flatMap attempts).take i)).store

/-- The record at some position is the one that the attempt there leaves in the store there. -/
theorem getElem?_log_eq_some_iff {st : State} {submissions : List String} {i : Nat} {r : Record} :
    (e.log st submissions)[i]? = some r ↔
      ∃ a, (submissions.flatMap attempts)[i]? = some a ∧
        (e.attempt (e.storeAt st submissions i) a).records = [r] := by
  rw [log_eq]
  exact e.getElem?_records_run_eq_some_iff

/-- The store at a position is the one that the attempt before it leaves behind. -/
theorem storeAt_succ {st : State} {submissions : List String} {i : Nat} {a : Attempt}
    (h : (submissions.flatMap attempts)[i]? = some a) :
    e.storeAt st submissions (i + 1) = (e.attempt (e.storeAt st submissions i) a).store := by
  rw [storeAt, List.take_add_one, h, Option.toList_some, run_append]
  rfl

/-- The store at a position is reached by attempts from the store at any position before it. -/
theorem exists_storeAt_eq (st : State) (submissions : List String) {i j : Nat} (h : i ≤ j) :
    ∃ as, e.storeAt st submissions j = (e.run (e.storeAt st submissions i) as).store := by
  obtain ⟨k, rfl⟩ := Nat.exists_eq_add_of_le h
  refine ⟨((submissions.flatMap attempts).drop i).take k, ?_⟩
  rw [storeAt, List.take_add, run_append]
  rfl

/-- And so is the store after all submissions. -/
theorem exists_store_submitAll_eq (st : State) (submissions : List String) (i : Nat) :
    ∃ as, (e.submitAll st submissions).store = (e.run (e.storeAt st submissions i) as).store := by
  refine ⟨(submissions.flatMap attempts).drop i, ?_⟩
  have hrun := congrArg Progress.store (e.run_append st.store
    ((submissions.flatMap attempts).take i) ((submissions.flatMap attempts).drop i))
  rw [List.take_append_drop] at hrun
  rw [store_submitAll, hrun]
  rfl

/-- A submission keeps the index in step with the store. -/
theorem index_submit {st : State} (h : st.index = e.rebuildIndex st.store) (submission : String) :
    (e.submit st submission).index = e.rebuildIndex (e.submit st submission).store := by
  rw [submit_eq, h]
  exact e.getD_index_run st.store (attempts submission)

/-- So do submissions made one after the other. -/
theorem index_submitAll {st : State} (h : st.index = e.rebuildIndex st.store)
    (submissions : List String) :
    (e.submitAll st submissions).index = e.rebuildIndex (e.submitAll st submissions).store := by
  induction submissions generalizing st with
  | nil => exact h
  | cons submission submissions ih => exact ih (e.index_submit h submission)

/-- Whatever is submitted to an engine that starts with the index over its store, the index is the
one over the current store after every submission.  A submission returns an index exactly if it
returns a store, which it does exactly if it has stored a row. -/
theorem index_in_step (s : Store) (submissions : List String) :
    (e.submitAll (e.start s) submissions).index =
        e.rebuildIndex (e.submitAll (e.start s) submissions).store ∧
      ∀ (s' : Store) (index : Tree) (submission : String),
        ((e.execute s' index submission).index.isSome ↔
            (e.execute s' index submission).store.isSome) ∧
          ((e.execute s' index submission).store.isSome ↔
            ∃ r ∈ (e.execute s' index submission).records, r.success) := by
  have hstart : (e.start s).index = e.rebuildIndex (e.start s).store := rfl
  exact ⟨e.index_submitAll hstart submissions, e.isSome_execute⟩

end Engine

end DogRegistry
