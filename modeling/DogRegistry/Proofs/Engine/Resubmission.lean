import DogRegistry.Proofs.Engine.Assignment
import DogRegistry.Proofs.Engine.Independence
import DogRegistry.Proofs.Engine.Uniqueness

/-!
# Submissions made twice

A dog that is refused is refused for good: it has the wrong number of values, or it is in conflict
with a row, and rows are never removed, or the largest identifier is taken, and then no dog is stored
any more.  And a dog that is stored is refused from then on, because it is in conflict with itself,
as long as its name and owner are trimmed.  So a submission that is made a second time finds all of
its dogs refused, whatever became of them the first time.

## Main definitions

* `Store.Refuses s values` — the store has no place for a dog with these values.
* `DogsTrimmed as` — the dogs among some attempts have trimmed names and owners.

## Main results

* `Store.refuses_iff` — the three reasons to refuse a dog.
* `Store.Refuses.run` — attempts never take a refusal back.
* `Engine.refuses_attempt` — a dog is refused once an attempt to store it was made.
* `Engine.run_of_refused` — attempts that only ask for refused dogs leave the dogs and the index
  alone.
* `Engine.submit_twice` — a submission that is made a second time stores no dog.
-/

namespace DogRegistry

open Text

/-! ### Refusals -/

/-- `s.Refuses values` says a dog with these values is rejected by the store. -/
def Store.Refuses (s : Store) (values : List String) : Prop :=
  ∃ cause, s.insertRow .dogs values = .error cause

namespace Store

variable {s s' : Store} {values : List String}

/-- Whether a dog is refused is decided by the dogs that are there. -/
theorem Refuses.congr (h : s.Refuses values) (hdogs : s.dogs = s'.dogs) : s'.Refuses values := by
  obtain ⟨cause, hcause⟩ := h
  rcases insertRow_congr (t := .dogs) hdogs values with ⟨cause', -, hs'⟩ | ⟨id, hs, -⟩
  · exact ⟨cause', hs'⟩
  · exact absurd (hcause.symm.trans hs) (by simp)

/-- An identifier is refused where the newest dog has the largest one. -/
theorem lastRowId?_dogs_of_assignId {cause : Rejection} (h : s.assignId .dogs = .error cause) :
    s.dogs.lastRowId? = some .last := by
  have hnone : s.dogs.nextRowId? = none := by
    cases hnext : s.dogs.nextRowId? with
    | none => rfl
    | some next =>
      have hid : s.assignId .dogs = .ok (some next) :=
        assignId_dogs_eq_ok_iff.2 ⟨next, hnext, rfl⟩
      exact absurd (h.symm.trans hid) (by simp)
  rw [Table.nextRowId?] at hnone
  cases hlast : s.dogs.lastRowId? with
  | none =>
    rw [hlast] at hnone
    exact absurd hnone (by simp)
  | some last =>
    rw [hlast] at hnone
    rw [(RowId.next?_eq_none_iff last).1 hnone]

/-- A dog is refused if it has another number of values than three, if it is in conflict with a dog
that is there, or if the newest dog has the largest identifier. -/
theorem refuses_iff :
    s.Refuses values ↔ values.length ≠ 3 ∨
      (∃ row ∈ s.dogs.rows, dogsNameOwner.conflicts row (candidateRow .dogs values) = true) ∨
        s.dogs.lastRowId? = some .last := by
  constructor
  · rintro ⟨cause, hcause⟩
    rcases insertRow_eq_error_iff.1 hcause with
      ⟨hlength, -⟩ | ⟨-, ⟨u, hviolated, -⟩ | ⟨-, hid⟩⟩
    · exact .inl hlength
    · rw [violated?_dogs, ite_eq_iff] at hviolated
      obtain ⟨hany, -⟩ | ⟨-, hnone⟩ := hviolated
      · exact .inr (.inl (List.any_eq_true.1 hany))
      · exact absurd hnone (by simp)
    · exact .inr (.inr (lastRowId?_dogs_of_assignId hid))
  · intro h
    cases hinsert : s.insertRow .dogs values with
    | error cause => exact ⟨cause, hinsert⟩
    | ok stored =>
      -- what is stored is refused for none of the three reasons
      obtain ⟨s', id⟩ := stored
      obtain ⟨hlength, hviolated, -, -⟩ := insertRow_eq_ok_iff.1 hinsert
      rcases h with hlength' | ⟨row, hrow, hconflict⟩ | hlast
      · exact absurd hlength hlength'
      · have hfree := violated?_dogs_eq_none_iff.1 hviolated row hrow
        exact absurd hconflict (Bool.eq_false_iff.1 hfree)
      · exact absurd hinsert (Engine.not_insertRow_dogs_of_last hlast)

/-- Attempts never take a refusal back. -/
theorem Refuses.run (h : s.Refuses values) (e : Engine) (as : List Attempt) :
    (e.run s as).store.Refuses values := by
  rw [refuses_iff] at h ⊢
  rcases h with hlength | ⟨row, hrow, hconflict⟩ | hlast
  · exact .inl hlength
  · have hrow' : row ∈ (e.run s as).store.dogs.rows := (e.prefix_rows_run s as .dogs).subset hrow
    exact .inr (.inl ⟨row, hrow', hconflict⟩)
  · refine .inr (.inr ?_)
    rw [e.dogs_run_of_last hlast as]
    exact hlast

end Store

/-! ### Attempts -/

/-- `DogsTrimmed as` says the dogs among the attempts, as far as they have three values, have no
blanks around their names and owners. -/
def DogsTrimmed (as : List Attempt) : Prop :=
  ∀ breed name owner, Attempt.insert .dogs [breed, name, owner] ∈ as →
    trim name = name ∧ trim owner = owner

theorem DogsTrimmed.mono {as bs : List Attempt} (h : DogsTrimmed as) (hsubset : bs ⊆ as) :
    DogsTrimmed bs :=
  fun breed name owner hmem => h breed name owner (hsubset hmem)

namespace Engine

variable (e : Engine) {s : Store} {as : List Attempt}

/-- A dog that is trimmed is refused once an attempt to store it was made: if it was stored, it is in
conflict with itself. -/
theorem refuses_attempt (s : Store) {values : List String}
    (htrimmed : DogsTrimmed [.insert .dogs values]) :
    (e.attempt s (.insert .dogs values)).store.Refuses values := by
  cases hinsert : s.insertRow .dogs values with
  | error cause =>
    rw [e.attempt_insert_of_error hinsert]
    exact ⟨cause, hinsert⟩
  | ok stored =>
    obtain ⟨s', id⟩ := stored
    obtain ⟨hlength, -, hid, rfl⟩ := Store.insertRow_eq_ok_iff.1 hinsert
    obtain ⟨next, -, rfl⟩ := Store.assignId_dogs_eq_ok_iff.1 hid
    obtain ⟨breed, name, owner, rfl⟩ := List.length_eq_three.1 hlength
    obtain ⟨hname, howner⟩ := htrimmed breed name owner List.mem_cons_self
    have hnot : ¬ Padded (candidateRow .dogs [breed, name, owner]) := by
      refine not_padded_iff.2 ⟨fun cell hcell => ?_, fun cell hcell => ?_⟩
      · obtain rfl : name = cell := Option.some.inj hcell
        exact hname
      · obtain rfl : owner = cell := Option.some.inj hcell
        exact howner
    have hsame : SameDog (numberedRow (some next) [breed, name, owner])
        (candidateRow .dogs [breed, name, owner]) :=
      ⟨name, name, owner, rfl, rfl, rfl, rfl, rfl⟩
    rw [e.attempt_insert_of_ok hinsert]
    exact Store.refuses_iff.2 (.inr (.inl
      ⟨_, List.mem_append_right _ (List.mem_singleton_self _), hsame.conflicts hnot⟩))

/-- So attempts leave all of the dogs refused that they ask for. -/
theorem refuses_run (s : Store) (htrimmed : DogsTrimmed as) {values : List String}
    (hmem : .insert .dogs values ∈ as) : (e.run s as).store.Refuses values := by
  have hself : DogsTrimmed [.insert .dogs values] :=
    htrimmed.mono (List.cons_subset.2 ⟨hmem, List.nil_subset _⟩)
  obtain ⟨before, after, rfl⟩ := List.append_of_mem hmem
  rw [run_append]
  exact (e.refuses_attempt (e.run s before).store hself).run e after

/-- Attempts that only ask for refused dogs leave the dogs alone and build no index. -/
theorem run_of_refused (h : ∀ values, .insert .dogs values ∈ as → s.Refuses values) :
    (e.run s as).store.dogs = s.dogs ∧ (e.run s as).index = none := by
  induction as generalizing s with
  | nil => exact ⟨rfl, rfl⟩
  | cons a as ih =>
    have ha : (e.attempt s a).store.dogs = s.dogs ∧ (e.attempt s a).index = none := by
      obtain ⟨cause, ha⟩ | ⟨t, values, id, rfl, hstored, ha⟩ := e.attempt_cases s a
      · rw [ha]
        exact ⟨rfl, rfl⟩
      · cases t with
        | owners =>
          rw [ha]
          exact ⟨rfl, rfl⟩
        | dogs =>
          obtain ⟨cause, hcause⟩ := h values List.mem_cons_self
          exact absurd (hcause.symm.trans hstored) (by simp)
    obtain ⟨hdogs, hindex⟩ := ih fun values hmem =>
      (h values (List.mem_cons_of_mem a hmem)).congr ha.1.symm
    rw [run_cons, Progress.store_andThen, Progress.index_andThen, hindex, ha.2]
    exact ⟨hdogs.trans ha.1, rfl⟩

/-- The record of a refused dog is a failure, wherever among the attempts it is asked for. -/
theorem exists_failure_of_refused {values : List String} (h : s.Refuses values) {i : Nat}
    (hi : as[i]? = some (.insert .dogs values)) :
    ∃ r, (e.run s as).records[i]? = some r ∧ r.success = false := by
  obtain ⟨cause, hcause⟩ := h.run e (as.take i)
  exact ⟨_, e.getElem?_records_run_eq_some_iff.2
    ⟨_, hi, congrArg Progress.records (e.attempt_insert_of_error hcause)⟩, rfl⟩

/-- There are as many records as attempts. -/
theorem length_records_run (s : Store) (as : List Attempt) :
    (e.run s as).records.length = as.length := by
  induction as generalizing s with
  | nil => rfl
  | cons a as ih =>
    obtain ⟨r, hr⟩ := e.exists_records_attempt s a
    rw [run_cons, Progress.records_andThen, hr, List.length_append, ih, List.length_singleton,
      List.length_cons, Nat.add_comm]

/-! ### Submissions -/

/-- A submission of trimmed dogs that is made a second time, after the first result was taken over,
leaves as many records as before and stores no dog: every record of a dog is a failure, and the dogs
and the index are those of the first time. -/
theorem submit_twice (st : State) (submission : String)
    (htrimmed : DogsTrimmed (attempts submission)) :
    let once := e.submit st submission
    let twice := e.submit once submission
    let records := (e.execute once.store once.index submission).records
    records.length = (e.execute st.store st.index submission).records.length ∧
      (∀ (i : Nat) values, (attempts submission)[i]? = some (.insert .dogs values) →
        ∃ r, records[i]? = some r ∧ r.success = false) ∧
      twice.store.dogs = once.store.dogs ∧ twice.index = once.index := by
  intro once twice records
  have hrefused : ∀ values, .insert .dogs values ∈ attempts submission →
      once.store.Refuses values := by
    intro values hmem
    have honce : once.store = (e.run st.store (attempts submission)).store :=
      congrArg State.store (e.submit_eq st submission)
    rw [honce]
    exact e.refuses_run st.store htrimmed hmem
  obtain ⟨hdogs, hindex⟩ := e.run_of_refused hrefused
  have htwice : twice = ⟨(e.run once.store (attempts submission)).store,
      (e.run once.store (attempts submission)).index.getD once.index⟩ :=
    e.submit_eq once submission
  have hrecords : records = (e.run once.store (attempts submission)).records :=
    e.records_execute once.store once.index submission
  refine ⟨?_, fun i values hi => ?_, ?_, ?_⟩
  · rw [hrecords, records_execute, length_records_run, length_records_run]
  · rw [hrecords]
    exact e.exists_failure_of_refused (hrefused values (List.mem_of_getElem? hi)) hi
  · rw [htwice]
    exact hdogs
  · rw [htwice, hindex]
    rfl

/-- A state whose newest dog leaves one identifier, and whose index is out of date. -/
def oneIdentifierLeft : State where
  store :=
    { owners := Store.initial.owners
      dogs :=
        { header := Store.initial.dogs.header
          rows := [["18446744073709551614", "Boxer", "Rex", "1"]] } }
  index := default.rebuildIndex .initial

/-- A dog that can be stored, a duplicate of it, one that lacks a value, and one for which no
identifier is left, with an owner behind them. -/
def mixedFates : String :=
  "INSERT INTO dogs VALUES (Pug, Al, 1), (Pug, AL, 1), (Pug, Bob), (Pug, Bob, 1); "
    ++ "INSERT INTO owners VALUES (4, Eva)"

/-- The first of the dogs is stored, and the second time none is, while the owner is stored both
times. -/
theorem submit_twice_mixedFates :
    DogsTrimmed (attempts mixedFates) ∧
      let once := default.submit oneIdentifierLeft mixedFates
      let records := (default.execute once.store once.index mixedFates).records
      once.store.dogs.rows.length = 2 ∧ records.length = 5 ∧
        (∃ r, records[0]? = some r ∧ r.success = false) ∧
        (∃ r, records[3]? = some r ∧ r.success = false) ∧
        (∃ r, records[4]? = some r ∧ r.success = true) ∧
        (default.submit once mixedFates).store.dogs = once.store.dogs ∧
        (default.submit once mixedFates).index = once.index := by
  have hattempts : attempts mixedFates =
      [.insert .dogs ["Pug", "Al", "1"], .insert .dogs ["Pug", "AL", "1"],
        .insert .dogs ["Pug", "Bob"], .insert .dogs ["Pug", "Bob", "1"],
        .insert .owners ["4", "Eva"]] := by
    decide +kernel
  have htrimmed : DogsTrimmed (attempts mixedFates) := by
    have htexts : ∀ text ∈ ["Al", "AL", "Bob", "1"], trim text = text := by decide +kernel
    intro breed name owner hmem
    rw [hattempts] at hmem
    simp only [List.mem_cons, Attempt.insert.injEq, List.cons.injEq, and_true, reduceCtorEq,
      and_false, true_and, and_self, or_false, false_or, List.not_mem_nil] at hmem
    rcases hmem with ⟨-, rfl, rfl⟩ | ⟨-, rfl, rfl⟩ | ⟨-, rfl, rfl⟩
    all_goals exact ⟨htexts _ (by simp), htexts _ (by simp)⟩
  obtain ⟨hlength, hfailures, hdogs, hindex⟩ := submit_twice default oneIdentifierLeft mixedFates
    htrimmed
  refine ⟨htrimmed, ?_, hlength.trans ?_, hfailures 0 ["Pug", "Al", "1"] ?_,
    hfailures 3 ["Pug", "Bob", "1"] ?_, ?_, hdogs, hindex⟩
  · rw [submit_eq, hattempts]
    decide +kernel
  · rw [records_execute, length_records_run, hattempts]
    rfl
  · rw [hattempts]
    rfl
  · rw [hattempts]
    rfl
  · rw [submit_eq, records_execute, hattempts]
    decide +kernel

end Engine

end DogRegistry
