import DogRegistry.Proofs.Engine.Submission
import DogRegistry.Proofs.Text.LowerCase

/-!
# Dogs with one name

No owner is meant to have two dogs with the same name, in any case.  A tuple is compared with the
dogs that are there, whose cells are trimmed for that, but the values of the tuple itself are
compared as they are.  So the rule holds among names and owners without blanks around them, and a
dog with such blanks, which only quotes let into the table, is never taken for any other dog, not
even for one that is written in the same way.

## Main definitions

* `SameDog row other` — the rows have the same owner and, up to case, the same name.
* `Padded row` — there are blanks around the name or the owner of a row.
* `Table.ConflictFree` — no dog of a table was in conflict with those stored before it.

## Main results

* `dogsNameOwner_conflicts_iff` — which rows are in conflict.
* `not_padded_of_conflicts` — a row with such blanks is in conflict with none.
* `Engine.conflictFree_submitAll` — submissions store no dog in conflict with another one.
* `Engine.dogs_unique_unless_padded` — so a dog is only found twice where its name or owner is
  padded, and a tuple is rejected as a duplicate if and only if neither is.
-/

namespace DogRegistry

open Text

/-! ### Rows -/

/-- `SameDog row other` says both rows have a name and an owner, the owners are the same and so are
the names, apart from their case. -/
def SameDog (row other : List String) : Prop :=
  ∃ name name' owner, row[2]? = some name ∧ other[2]? = some name' ∧ row[3]? = some owner ∧
    other[3]? = some owner ∧ lowerCase name = lowerCase name'

/-- `Padded row` says trimming changes the name or the owner of a row. -/
def Padded (row : List String) : Prop :=
  (∃ name, row[2]? = some name ∧ trim name ≠ name) ∨
    ∃ owner, row[3]? = some owner ∧ trim owner ≠ owner

theorem SameDog.symm {row other : List String} (h : SameDog row other) : SameDog other row := by
  obtain ⟨name, name', owner, hname, hname', howner, howner', hcase⟩ := h
  exact ⟨name', name, owner, hname', hname, howner', howner, hcase.symm⟩

theorem not_padded_iff {row : List String} :
    ¬ Padded row ↔ (∀ name, row[2]? = some name → trim name = name) ∧
      ∀ owner, row[3]? = some owner → trim owner = owner := by
  simp only [Padded, not_or, not_exists, not_and, Classical.not_not]

theorem getElem?_map_trim_eq_some_iff {row : List String} {i : Nat} {cell : String} :
    (row.map trim)[i]? = some cell ↔ ∃ stored, row[i]? = some stored ∧ trim stored = cell := by
  rw [List.getElem?_map, Option.map_eq_some_iff]

theorem not_padded_map_trim (row : List String) : ¬ Padded (row.map trim) := by
  rw [not_padded_iff]
  refine ⟨fun name hname => ?_, fun owner howner => ?_⟩
  · obtain ⟨stored, -, rfl⟩ := getElem?_map_trim_eq_some_iff.1 hname
    exact trim_trim stored
  · obtain ⟨stored, -, rfl⟩ := getElem?_map_trim_eq_some_iff.1 howner
    exact trim_trim stored

/-- Of two rows with the same dog, none is padded if the other one is not. -/
theorem SameDog.not_padded {row other : List String} (h : SameDog row other)
    (hrow : ¬ Padded row) : ¬ Padded other := by
  obtain ⟨name, name', owner, hname, hname', howner, howner', hcase⟩ := h
  obtain ⟨htrim, htrimOwner⟩ := not_padded_iff.1 hrow
  rw [not_padded_iff]
  refine ⟨fun cell hcell => ?_, fun cell hcell => ?_⟩
  · obtain rfl : name' = cell := Option.some.inj (hname'.symm.trans hcell)
    refine trim_eq_self_of_lowerCase_trim_eq (s := name) ?_
    rw [htrim name hname, hcase]
  · obtain rfl : owner = cell := Option.some.inj (howner'.symm.trans hcell)
    exact htrimOwner owner howner

/-- Trimming the cells of a row that is not padded makes no difference. -/
theorem SameDog.map_trim {row other : List String} (h : SameDog row other)
    (hrow : ¬ Padded row) : SameDog (row.map trim) other := by
  obtain ⟨name, name', owner, hname, hname', howner, howner', hcase⟩ := h
  obtain ⟨htrim, htrimOwner⟩ := not_padded_iff.1 hrow
  have hnameTrim := getElem?_map_trim_eq_some_iff.2 ⟨name, hname, htrim name hname⟩
  have hownerTrim := getElem?_map_trim_eq_some_iff.2 ⟨owner, howner, htrimOwner owner howner⟩
  exact ⟨name, name', owner, hnameTrim, hname', hownerTrim, howner', hcase⟩

/-! ### Conflicts -/

theorem UniqueConstraint.conflicts_iff {u : UniqueConstraint} {row candidate : List String} :
    u.conflicts row candidate = true ↔ ∀ c ∈ u.columns, ∃ existing value,
      row[c.index]? = some existing ∧ candidate[c.index]? = some value ∧
        c.agree (trim existing) value = true := by
  rw [conflicts, List.all_eq_true]
  refine forall₂_congr fun c _ => ?_
  cases row[c.index]? with
  | none => simp
  | some existing =>
    cases candidate[c.index]? with
    | none => simp
    | some value => simp

/-- A row is in conflict with a stored one if it has the same dog as that has once it is trimmed. -/
theorem dogsNameOwner_conflicts_iff {row candidate : List String} :
    dogsNameOwner.conflicts row candidate = true ↔ SameDog (row.map trim) candidate := by
  rw [UniqueConstraint.conflicts_iff, dogsNameOwner, List.forall_mem_cons,
    List.forall_mem_singleton]
  constructor
  · rintro ⟨⟨name, name', hname, hname', hcase⟩, owner, owner', howner, howner', heq⟩
    obtain rfl : trim owner = owner' := eq_of_beq heq
    exact ⟨trim name, name', trim owner, getElem?_map_trim_eq_some_iff.2 ⟨name, hname, rfl⟩, hname',
      getElem?_map_trim_eq_some_iff.2 ⟨owner, howner, rfl⟩, howner', eq_of_beq hcase⟩
  · rintro ⟨name, name', owner, hname, hname', howner, howner', hcase⟩
    obtain ⟨stored, hstored, rfl⟩ := getElem?_map_trim_eq_some_iff.1 hname
    obtain ⟨storedOwner, hstoredOwner, rfl⟩ := getElem?_map_trim_eq_some_iff.1 howner
    exact ⟨⟨stored, name', hstored, hname', beq_iff_eq.2 hcase⟩, storedOwner, trim storedOwner,
      hstoredOwner, howner', beq_self_eq_true _⟩

/-- A padded row is in conflict with none. -/
theorem not_padded_of_conflicts {row candidate : List String}
    (h : dogsNameOwner.conflicts row candidate = true) : ¬ Padded candidate :=
  (dogsNameOwner_conflicts_iff.1 h).not_padded (not_padded_map_trim row)

/-- A row that has the same dog as a stored one is in conflict with it, unless both are padded. -/
theorem SameDog.conflicts {row candidate : List String} (h : SameDog row candidate)
    (hcandidate : ¬ Padded candidate) : dogsNameOwner.conflicts row candidate = true :=
  dogsNameOwner_conflicts_iff.2 (h.map_trim (h.symm.not_padded hcandidate))

/-! ### Stored dogs -/

/-- No dog of the table is in conflict with one that was stored before it. -/
def Table.ConflictFree (t : Table) : Prop :=
  t.rows.Pairwise fun row later => dogsNameOwner.conflicts row later = false

/-- The same dog is only found twice in the table if it is padded. -/
theorem Table.ConflictFree.padded_of_sameDog {t : Table} (h : t.ConflictFree) :
    t.rows.Pairwise fun row later => SameDog row later → Padded later := by
  refine List.Pairwise.imp (fun {row later} hfree hsame => ?_) h
  refine Classical.byContradiction fun hlater => ?_
  exact absurd (hsame.conflicts hlater) (Bool.eq_false_iff.1 hfree)

namespace Store

theorem conflictFree_dogs_initial : initial.dogs.ConflictFree := by
  rw [Table.ConflictFree]
  decide +kernel

theorem conflictFree_dogs_empty : empty.dogs.ConflictFree :=
  List.Pairwise.nil

/-- A row that is stored keeps the dogs free of conflicts. -/
theorem conflictFree_insertRow {s s' : Store} {t : TableName} {values : List String}
    {id : Option RowId} (h : s.dogs.ConflictFree) (hstored : s.insertRow t values = .ok (s', id)) :
    s'.dogs.ConflictFree := by
  obtain ⟨-, hviolated, hid, rfl⟩ := insertRow_eq_ok_iff.1 hstored
  cases t with
  | owners => exact h
  | dogs =>
    obtain ⟨next, -, rfl⟩ := assignId_dogs_eq_ok_iff.1 hid
    refine List.pairwise_append.2 ⟨h, List.pairwise_singleton _ _, fun row hrow new hnew => ?_⟩
    -- the identifier in the first cell plays no part in the comparison
    rw [List.mem_singleton.1 hnew]
    exact violated?_dogs_eq_none_iff.1 hviolated row hrow

end Store

namespace Engine

variable (e : Engine)

/-- Submissions keep the dogs free of conflicts. -/
theorem conflictFree_submitAll {st : State} (h : st.store.dogs.ConflictFree)
    (submissions : List String) : (e.submitAll st submissions).store.dogs.ConflictFree :=
  e.submitAll_induction (P := fun s => s.dogs.ConflictFree)
    (fun _ _ _ _ _ _ hs hstored => Store.conflictFree_insertRow hs hstored) h

/-! ### Duplicates -/

/-- A dog with the right number of values is rejected as a duplicate if and only if it is in
conflict with one that is there. -/
theorem error_attempt_dogs_eq_duplicate_iff {s : Store} {values : List String} {r : Record}
    (hlength : values.length = 3) (hr : (e.attempt s (.insert .dogs values)).records = [r]) :
    r.error = some .duplicate ↔
      ∃ row ∈ s.dogs.rows, dogsNameOwner.conflicts row (candidateRow .dogs values) = true := by
  have hfree : s.violated? .dogs (candidateRow .dogs values) = none →
      ¬ ∃ row ∈ s.dogs.rows, dogsNameOwner.conflicts row (candidateRow .dogs values) = true := by
    rintro hnone ⟨row, hrow, hconflict⟩
    exact absurd hconflict (Bool.eq_false_iff.1 (Store.violated?_dogs_eq_none_iff.1 hnone row hrow))
  cases hinsert : s.insertRow .dogs values with
  | ok stored =>
    obtain ⟨s', id⟩ := stored
    obtain ⟨-, hnone, -, -⟩ := Store.insertRow_eq_ok_iff.1 hinsert
    rw [e.attempt_insert_of_ok hinsert] at hr
    obtain rfl := List.singleton_inj.1 hr
    exact iff_of_false (by simp [Record.ofRow]) (hfree hnone)
  | error cause =>
    rw [e.attempt_insert_of_error hinsert] at hr
    obtain rfl := List.singleton_inj.1 hr
    rcases Store.insertRow_eq_error_iff.1 hinsert with
      ⟨harity, -⟩ | ⟨-, ⟨u, hviolated, rfl⟩ | ⟨hnone, hid⟩⟩
    · exact absurd hlength harity
    · rw [Store.violated?_dogs, ite_eq_iff] at hviolated
      obtain ⟨hany, -⟩ | ⟨-, hnone⟩ := hviolated
      · exact iff_of_true rfl (List.any_eq_true.1 hany)
      · exact absurd hnone (by simp)
    · obtain rfl := Store.eq_exhausted_of_assignId hid
      exact iff_of_false (by simp [Record.ofRejection, Rejection.kind]) (hfree hnone)

/-- A dog whose record is a success is in the store that its attempt leaves behind. -/
theorem exists_row_of_log_success {st : State} {submissions : List String} {i : Nat}
    {values : List String} {r : Record}
    (ha : (submissions.flatMap attempts)[i]? = some (.insert .dogs values))
    (hr : (e.log st submissions)[i]? = some r) (hsuccess : r.success) :
    ∃ id, numberedRow (some id) values ∈ (e.storeAt st submissions (i + 1)).dogs.rows := by
  obtain ⟨a, ha', hrecords⟩ := e.getElem?_log_eq_some_iff.1 hr
  obtain rfl : .insert .dogs values = a := Option.some.inj (ha.symm.trans ha')
  rw [e.storeAt_succ ha]
  obtain ⟨cause, hattempt⟩ | ⟨t, values', id, heq, hstored, hattempt⟩ :=
    e.attempt_cases (e.storeAt st submissions i) (.insert .dogs values)
  · rw [hattempt] at hrecords
    obtain rfl := List.singleton_inj.1 hrecords
    exact absurd hsuccess (by simp)
  · obtain ⟨rfl, rfl⟩ := Attempt.insert.inj heq
    obtain ⟨-, -, hid, -⟩ := Store.insertRow_eq_ok_iff.1 hstored
    obtain ⟨next, -, rfl⟩ := Store.assignId_dogs_eq_ok_iff.1 hid
    rw [hattempt]
    exact ⟨next, List.mem_append_right _ (List.mem_singleton_self _)⟩

/-- Whatever is submitted to an engine that starts with the first store or with the empty one, the
table only holds a dog twice if its name or owner is padded.  A dog that was stored is rejected as a
duplicate when it is given again if and only if it is not padded. -/
theorem dogs_unique_unless_padded {s : Store} (hs : s ∈ [Store.initial, Store.empty])
    (submissions : List String) :
    ((e.submitAll (e.start s) submissions).store.dogs.rows.Pairwise fun row later =>
        SameDog row later → Padded later) ∧
      ∀ (i j : Nat) (values values' : List String) (r : Record), i < j →
        (submissions.flatMap attempts)[i]? = some (.insert .dogs values) →
        (e.log (e.start s) submissions)[i]? = some r → r.success →
        (submissions.flatMap attempts)[j]? = some (.insert .dogs values') → values'.length = 3 →
        SameDog (candidateRow .dogs values) (candidateRow .dogs values') →
        ∃ r', (e.log (e.start s) submissions)[j]? = some r' ∧
          (r'.error = some .duplicate ↔ ¬ Padded (candidateRow .dogs values')) := by
  have hstart : (e.start s).store.dogs.ConflictFree := by
    rcases List.mem_cons.1 hs with rfl | hs
    · exact Store.conflictFree_dogs_initial
    · rw [List.mem_singleton.1 hs]
      exact Store.conflictFree_dogs_empty
  refine ⟨(e.conflictFree_submitAll hstart submissions).padded_of_sameDog, ?_⟩
  intro i j values values' r hij hi hr hsuccess hj hlength hsame
  obtain ⟨id, hrow⟩ := e.exists_row_of_log_success hi hr hsuccess
  -- the stored dog is still there when the later tuple is checked
  obtain ⟨as, has⟩ := e.exists_storeAt_eq (e.start s) submissions (Nat.succ_le_of_lt hij)
  have hrow' : numberedRow (some id) values ∈ (e.storeAt (e.start s) submissions j).dogs.rows := by
    rw [has]
    exact (e.prefix_rows_run _ as .dogs).subset hrow
  obtain ⟨r', hr'⟩ := e.exists_records_attempt (e.storeAt (e.start s) submissions j)
    (.insert .dogs values')
  refine ⟨r', e.getElem?_log_eq_some_iff.2 ⟨_, hj, hr'⟩, ?_⟩
  rw [e.error_attempt_dogs_eq_duplicate_iff hlength hr']
  constructor
  · rintro ⟨row, -, hconflict⟩
    exact not_padded_of_conflicts hconflict
  · intro hpadded
    have hsame' : SameDog (numberedRow (some id) values) (candidateRow .dogs values') := hsame
    exact ⟨_, hrow', hsame'.conflicts hpadded⟩

/-- Two submissions of one dog, whose name is written in different cases. -/
def rexes : List String :=
  ["INSERT INTO dogs VALUES ('Boxer', 'Rex', '1')", "INSERT INTO dogs VALUES ('Pug', 'REX', '1')"]

theorem dogs_unique_unless_padded_rexes :
    Store.initial ∈ [Store.initial, Store.empty] ∧
      ∃ r, (default.log (default.start .initial) rexes)[1]? = some r ∧
        r.error = some .duplicate := by
  have hmem : Store.initial ∈ [Store.initial, Store.empty] := List.mem_cons_self
  have hattempts : rexes.flatMap attempts =
      [.insert .dogs ["Boxer", "Rex", "1"], .insert .dogs ["Pug", "REX", "1"]] := by
    decide +kernel
  have hfirst : (default.log (default.start .initial) rexes)[0]? = some
      (.ofRow "INSERT INTO dogs VALUES (Boxer, Rex, 1)" .dogs (some ⟨104, by decide⟩)) := by
    rw [log_eq]
    decide +kernel
  have hsame : SameDog (candidateRow .dogs ["Boxer", "Rex", "1"])
      (candidateRow .dogs ["Pug", "REX", "1"]) :=
    ⟨"Rex", "REX", "1", rfl, rfl, rfl, rfl, by decide +kernel⟩
  have hnot : ¬ Padded (candidateRow .dogs ["Pug", "REX", "1"]) := by
    refine not_padded_iff.2 ⟨fun name hname => ?_, fun owner howner => ?_⟩
    · obtain rfl := Option.some.inj hname
      decide +kernel
    · obtain rfl := Option.some.inj howner
      decide +kernel
  obtain ⟨r, hr, herror⟩ := (dogs_unique_unless_padded default hmem rexes).2 0 1 _ _ _ (by decide)
    (by rw [hattempts]; rfl) hfirst rfl (by rw [hattempts]; rfl) rfl hsame
  exact ⟨hmem, r, hr, herror.2 hnot⟩

/-- The rule has an exception: a padded dog that is given twice is stored twice. -/
theorem not_dogs_unique : ¬ ∀ submissions : List String,
    (default.submitAll (default.start .initial) submissions).store.dogs.rows.Pairwise
      fun row later => ¬ SameDog row later := by
  intro hunique
  let submissions := ["INSERT INTO dogs VALUES ('Boxer',' Rex ','1')",
    "INSERT INTO dogs VALUES ('Boxer',' Rex ','1')"]
  have hrows : (default.submitAll (default.start .initial) submissions).store.dogs.rows.drop 3 =
      [["104", "Boxer", " Rex ", "1"], ["105", "Boxer", " Rex ", "1"]] := by
    rw [store_submitAll]
    decide +kernel
  have hpair := (hunique submissions).sublist (List.drop_sublist 3 _)
  rw [hrows] at hpair
  exact List.rel_of_pairwise_cons hpair (List.mem_singleton_self _)
    ⟨" Rex ", " Rex ", "1", rfl, rfl, rfl, rfl, rfl⟩

end Engine

end DogRegistry
