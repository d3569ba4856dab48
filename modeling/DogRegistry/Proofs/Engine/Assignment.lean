import DogRegistry.Proofs.Engine.Numbering

/-!
# The identifiers that are assigned

There is no counter: the identifier of a dog is read off the newest row and written into the next
one.  Still the identifiers that are assigned, over as many submissions as there are, are the
numbers that follow the one in the newest row, without a gap, until the largest one is reached.

## Main definitions

* `Table.lastNumber` — the number in the newest row.
* `storedIn t` — whether an attempt and its record are those of a row that is stored in `t`.

## Main results

* `Engine.attempt_dogs_cases` — an attempt assigns the next identifier, or leaves the dogs alone.
* `Engine.assignedIds_run` — attempts assign consecutive identifiers.
* `Engine.dogs_run_of_last` — behind the largest identifier no dog is stored.
* `Engine.assignedIds_log` — the same for submissions, with what becomes of a dog after that.
-/

namespace DogRegistry

/-! ### The newest number -/

/-- The number in the first cell of the newest row, or `0` if there is none. -/
def Table.lastNumber (t : Table) : Nat :=
  t.lastRowId?.elim 0 RowId.toNat

namespace Table

/-- The identifier that comes next has the number that follows. -/
theorem toNat_of_nextRowId? {t : Table} {id : RowId} (h : t.nextRowId? = some id) :
    id.toNat = t.lastNumber + 1 := by
  rw [nextRowId?] at h
  rw [lastNumber]
  cases hlast : t.lastRowId? with
  | none =>
    rw [hlast] at h
    exact congrArg RowId.toNat (Option.some.inj h.symm)
  | some last =>
    rw [hlast] at h
    exact RowId.toNat_of_next? h

theorem lastNumber_push (t : Table) (id : RowId) (values : List String) :
    (t.push (numberedRow (some id) values)).lastNumber = id.toNat := by
  rw [lastNumber, lastRowId?_eq, rows_push, List.getLast?_concat, Option.bind_some,
    rowId?_numberedRow, Option.elim_some]

/-- No number is larger than the largest identifier. -/
theorem lastNumber_le (t : Table) : t.lastNumber ≤ RowId.last.toNat := by
  rw [lastNumber]
  cases t.lastRowId? with
  | none => exact Nat.zero_le _
  | some id => exact Nat.le_sub_one_of_lt id.toNat_lt

end Table

/-- `storedIn t p` says the attempt and the record in `p` are those of a row stored in `t`. -/
def storedIn (t : TableName) (p : Attempt × Record) : Bool :=
  match p.1 with
  | .reject _ _ => false
  | .insert u _ => u == t && p.2.success

namespace Engine

variable (e : Engine) {s : Store}

/-! ### Consecutive identifiers -/

/-- An attempt leaves the dogs alone and assigns nothing, or it stores a dog under the number that
follows the newest one. -/
theorem attempt_dogs_cases (s : Store) (a : Attempt) :
    ∃ r, (e.attempt s a).records = [r] ∧
      ((r.assignedId = none ∧ storedIn .dogs (a, r) = false ∧
          (e.attempt s a).store.dogs = s.dogs) ∨
        ∃ id, r.assignedId = some id ∧ storedIn .dogs (a, r) = true ∧
          id.toNat = s.dogs.lastNumber + 1 ∧ (e.attempt s a).store.dogs.lastNumber = id.toNat) := by
  obtain ⟨cause, ha⟩ | ⟨t, values, id, rfl, hstored, ha⟩ := e.attempt_cases s a
  · rw [ha]
    refine ⟨_, rfl, .inl ⟨rfl, ?_, rfl⟩⟩
    cases a with
    | reject statement cause => rfl
    | insert t values => exact Bool.and_false _
  · rw [ha]
    refine ⟨_, rfl, ?_⟩
    obtain ⟨-, -, hid, -⟩ := Store.insertRow_eq_ok_iff.1 hstored
    cases t with
    | owners =>
      obtain rfl : none = id := Except.ok.inj hid
      exact .inl ⟨rfl, rfl, rfl⟩
    | dogs =>
      obtain ⟨next, hnext, rfl⟩ := Store.assignId_dogs_eq_ok_iff.1 hid
      exact .inr ⟨next, rfl, rfl, Table.toNat_of_nextRowId? hnext,
        Table.lastNumber_push s.dogs next values⟩

/-- Attempts assign consecutive identifiers, one for every dog that is stored, from the one that
follows the newest row on. -/
theorem assignedIds_run (s : Store) (as : List Attempt) :
    ((e.run s as).records.filterMap Record.assignedId).map RowId.toNat =
      List.range' (s.dogs.lastNumber + 1)
        ((as.zip (e.run s as).records).countP (storedIn .dogs)) := by
  induction as generalizing s with
  | nil => rfl
  | cons a as ih =>
    obtain ⟨r, hr, hcases⟩ := e.attempt_dogs_cases s a
    rw [run_cons, Progress.records_andThen, hr, List.singleton_append, List.zip_cons_cons]
    rcases hcases with ⟨hnone, hnot, hdogs⟩ | ⟨id, hsome, hstored, hnumber, hlast⟩
    · rw [List.filterMap_cons_none hnone, List.countP_cons_of_neg (by simp [hnot]), ih, hdogs]
    · -- the identifier of this dog stands in front of those that follow
      rw [List.filterMap_cons_some hsome, List.countP_cons_of_pos hstored, List.map_cons, ih,
        hlast, hnumber, List.range'_succ]

/-! ### Behind the largest identifier -/

/-- Where the newest dog has the largest identifier, no other one can be stored. -/
theorem not_insertRow_dogs_of_last (hlast : s.dogs.lastRowId? = some .last) {s' : Store}
    {values : List String} {id : Option RowId} : s.insertRow .dogs values ≠ .ok (s', id) := by
  intro h
  obtain ⟨-, -, hid, -⟩ := Store.insertRow_eq_ok_iff.1 h
  obtain ⟨next, hnext, -⟩ := Store.assignId_dogs_eq_ok_iff.1 hid
  have hnone : s.dogs.nextRowId? = none := by
    rw [Table.nextRowId?, hlast]
    exact (RowId.next?_eq_none_iff _).2 rfl
  exact absurd (hnext.symm.trans hnone) (Option.some_ne_none next)

/-- So attempts leave the dogs alone from then on. -/
theorem dogs_run_of_last (hlast : s.dogs.lastRowId? = some .last) (as : List Attempt) :
    (e.run s as).store.dogs = s.dogs := by
  refine e.run_induction (P := fun s' => s'.dogs = s.dogs) ?_ rfl
  intro s₁ t values s₂ id _ hdogs hstored
  cases t with
  | owners =>
    obtain ⟨-, -, -, rfl⟩ := Store.insertRow_eq_ok_iff.1 hstored
    exact hdogs
  | dogs => exact absurd hstored (not_insertRow_dogs_of_last (by rw [hdogs, hlast]))

/-- A dog with the right number of values that agrees with no other one is then rejected for want of
an identifier. -/
theorem insertRow_dogs_of_last (hlast : s.dogs.lastRowId? = some .last) {values : List String}
    (hlength : values.length = 3)
    (hunique : ∀ row ∈ s.dogs.rows,
      dogsNameOwner.conflicts row (candidateRow .dogs values) = false) :
    s.insertRow .dogs values = .error (.exhausted .dogs) := by
  have hviolated : s.violated? .dogs (candidateRow .dogs values) = none :=
    Store.violated?_dogs_eq_none_iff.2 hunique
  have hexhausted : s.assignId .dogs = .error (.exhausted .dogs) := by
    have hnone : (s.table .dogs).nextRowId? = none := by
      rw [Table.nextRowId?, show (s.table .dogs).lastRowId? = some .last from hlast]
      exact (RowId.next?_eq_none_iff _).2 rfl
    have hauto : TableName.dogs.schema.autoIncrement := rfl
    rw [Store.assignId, if_pos hauto, hnone]
  exact Store.insertRow_eq_error_iff.2 (.inr ⟨hlength, .inr ⟨hviolated, hexhausted⟩⟩)

/-! ### Submissions -/

/-- Submissions assign consecutive identifiers, one for every dog that is stored, from the one that
follows the newest dog of the first store on, and none beyond the largest identifier.  Once the
newest dog has that one, no dog is stored any more, and those that are given with the right number
of values and agree with no other one are rejected for want of an identifier. -/
theorem assignedIds_log (st : State) (submissions : List String) :
    (((e.log st submissions).filterMap Record.assignedId).map RowId.toNat =
        List.range' (st.store.dogs.lastNumber + 1)
          (((submissions.flatMap attempts).zip (e.log st submissions)).countP (storedIn .dogs))) ∧
      st.store.dogs.lastNumber +
          ((submissions.flatMap attempts).zip (e.log st submissions)).countP (storedIn .dogs) ≤
        RowId.last.toNat ∧
      ∀ i, (e.storeAt st submissions i).dogs.lastRowId? = some .last →
        (e.submitAll st submissions).store.dogs = (e.storeAt st submissions i).dogs ∧
          ∀ j values, i ≤ j →
            (submissions.flatMap attempts)[j]? = some (.insert .dogs values) →
            values.length = 3 →
            (∀ row ∈ (e.storeAt st submissions i).dogs.rows,
              dogsNameOwner.conflicts row (candidateRow .dogs values) = false) →
            (e.log st submissions)[j]? =
              some
                { command := insertCommand .dogs values
                  success := false
                  message := (Rejection.exhausted .dogs).message
                  assignedId := none
                  error := some .exhausted } := by
  have hids : ((e.log st submissions).filterMap Record.assignedId).map RowId.toNat =
      List.range' (st.store.dogs.lastNumber + 1)
        (((submissions.flatMap attempts).zip (e.log st submissions)).countP (storedIn .dogs)) := by
    rw [log_eq]
    exact e.assignedIds_run st.store _
  refine ⟨hids, ?_, fun i hlast => ⟨?_, fun j values hij hj hlength hunique => ?_⟩⟩
  · generalize ((submissions.flatMap attempts).zip (e.log st submissions)).countP (storedIn .dogs)
      = k at hids ⊢
    cases k with
    | zero => exact st.store.dogs.lastNumber_le
    | succ k =>
      -- the last number that is assigned is that of an identifier
      have hmem : st.store.dogs.lastNumber + (k + 1) ∈
          List.range' (st.store.dogs.lastNumber + 1) (k + 1) := by
        rw [List.mem_range'_1]
        omega
      rw [← hids] at hmem
      obtain ⟨id, -, hid⟩ := List.mem_map.1 hmem
      rw [← hid]
      exact Nat.le_sub_one_of_lt id.toNat_lt
  · obtain ⟨as, has⟩ := e.exists_store_submitAll_eq st submissions i
    rw [has]
    exact e.dogs_run_of_last hlast as
  · obtain ⟨as, has⟩ := e.exists_storeAt_eq st submissions hij
    have hdogs : (e.storeAt st submissions j).dogs = (e.storeAt st submissions i).dogs := by
      rw [has]
      exact e.dogs_run_of_last hlast as
    rw [← hdogs] at hlast hunique
    refine e.getElem?_log_eq_some_iff.2 ⟨_, hj, ?_⟩
    rw [e.attempt_insert_of_error (insertRow_dogs_of_last hlast hlength hunique)]
    rfl

/-- A state whose newest dog leaves one identifier. -/
def nearlyFull : State :=
  default.start
    { owners := Store.initial.owners
      dogs :=
        { header := Store.initial.dogs.header
          rows := [["18446744073709551614", "Boxer", "Rex", "1"]] } }

/-- A submission of two dogs. -/
def twoDogs : List String :=
  ["INSERT INTO dogs VALUES ('Pug', 'Ada', '1'), ('Pug', 'Bob', '1')"]

/-- The first of the two is given the last identifier, and the second one is rejected. -/
theorem assignedIds_log_nearlyFull :
    ((default.log nearlyFull twoDogs).filterMap Record.assignedId).map RowId.toNat =
        [RowId.last.toNat] ∧
      (default.log nearlyFull twoDogs)[1]? =
        some
          { command := "INSERT INTO dogs VALUES (Pug, Bob, 1)"
            success := false
            message := "cannot assign dog_id in dogs: no ID follows 18446744073709551615"
            assignedId := none
            error := some .exhausted } := by
  have hattempts : twoDogs.flatMap attempts =
      [.insert .dogs ["Pug", "Ada", "1"], .insert .dogs ["Pug", "Bob", "1"]] := by
    decide +kernel
  obtain ⟨hids, -, hfull⟩ := assignedIds_log default nearlyFull twoDogs
  have hlast : (default.storeAt nearlyFull twoDogs 1).dogs.lastRowId? = some .last := by
    rw [storeAt, hattempts]
    decide +kernel
  have hunique : ∀ row ∈ (default.storeAt nearlyFull twoDogs 1).dogs.rows,
      dogsNameOwner.conflicts row (candidateRow .dogs ["Pug", "Bob", "1"]) = false := by
    rw [storeAt, hattempts]
    decide +kernel
  have hcount : ((twoDogs.flatMap attempts).zip (default.log nearlyFull twoDogs)).countP
      (storedIn .dogs) = 1 := by
    rw [log_eq, hattempts]
    decide +kernel
  have hsecond : (twoDogs.flatMap attempts)[1]? = some (.insert .dogs ["Pug", "Bob", "1"]) := by
    rw [hattempts]
    rfl
  have hrecord := (hfull 1 hlast).2 1 ["Pug", "Bob", "1"] (Nat.le_refl 1) hsecond rfl hunique
  refine ⟨?_, hrecord.trans (by decide +kernel)⟩
  rw [hids, hcount]
  decide +kernel

end Engine

end DogRegistry
