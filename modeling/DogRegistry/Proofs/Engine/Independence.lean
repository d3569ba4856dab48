import DogRegistry.Proofs.Engine.Submission

/-!
# Owners and dogs apart

What becomes of a tuple depends on the table that it is given for and on no other one.  So a run of
statements may lose all statements for the other table, and any of the statements that are rejected
as a whole, and what it does to the remaining table stays the same, down to the records.

## Main definitions

* `targetTable? statement` — the table that a statement brings rows for.
* `Store.AgreesOn T s s'` — two stores have the same tables, as far as `T` selects them.
* `Selects keep T` — the statements that `keep` selects are those for the tables of `T`, together
  with any of those for no table.
* `Engine.account` — statements with the records that they leave, `Engine.recordsOf` — the records
  of a selection.

## Main results

* `Engine.executeStatement_agreesOn`, `Engine.executeStatement_of_unselected` — a statement for a
  table does the same to two stores that agree on it, and leaves all other tables alone.
* `Engine.account_filter` — statements that are not selected can be left out of a run.
* `Engine.submitAll_select` — the same for submissions.
* `Engine.tables_independent` — each of the two tables only depends on its own statements.
-/

namespace DogRegistry

/-! ### The table of a statement -/

/-- The table that a statement brings rows for, if it is one and there is such a table. -/
def targetTable? (statement : String) : Option TableName :=
  match InsertStatement.parse statement with
  | .error _ => none
  | .ok parsed => TableName.resolve? parsed.table

/-- A statement either asks for rows of its table, or is rejected as a whole. -/
theorem Attempt.ofStatement_cases (statement : String) :
    (∃ t, ∃ tuples : List (List String), targetTable? statement = some t ∧
        ofStatement statement = tuples.map (.insert t)) ∨
      ∃ cause, targetTable? statement = none ∧
        ofStatement statement = [.reject (Text.trim statement) cause] := by
  rw [targetTable?]
  cases hparse : InsertStatement.parse statement with
  | error cause => exact .inr ⟨_, rfl, ofStatement_of_error hparse⟩
  | ok parsed =>
    cases htable : TableName.resolve? parsed.table with
    | none => exact .inr ⟨_, htable, ofStatement_of_none hparse htable⟩
    | some t => exact .inl ⟨t, parsed.tuples, htable, ofStatement_of_some hparse htable⟩

/-! ### Stores that agree on some tables -/

/-- `AgreesOn T s s'` says that `s` and `s'` have the same content in every table that `T`
selects. -/
def Store.AgreesOn (T : TableName → Bool) (s s' : Store) : Prop :=
  ∀ t, T t → s.table t = s'.table t

namespace Store

variable {T : TableName → Bool} {s s' s'' : Store} {t : TableName}

theorem AgreesOn.refl (T : TableName → Bool) (s : Store) : AgreesOn T s s :=
  fun _ _ => rfl

theorem AgreesOn.symm (h : AgreesOn T s s') : AgreesOn T s' s :=
  fun t ht => (h t ht).symm

theorem AgreesOn.trans (h : AgreesOn T s s') (h' : AgreesOn T s' s'') : AgreesOn T s s'' :=
  fun t ht => (h t ht).trans (h' t ht)

/-- Stores that agree on all tables are the same. -/
theorem AgreesOn.eq (h : AgreesOn (fun _ => true) s s') : s = s' := by
  have howners : s.owners = s'.owners := h .owners rfl
  have hdogs : s.dogs = s'.dogs := h .dogs rfl
  cases s
  cases s'
  simp_all

/-- The same row behind the same tables. -/
theorem AgreesOn.push (h : AgreesOn T s s') (row : List String) (t : TableName) :
    AgreesOn T (s.push row t) (s'.push row t) := by
  intro u hu
  by_cases hut : u = t
  · subst hut
    rw [table_push_self, table_push_self, h u hu]
  · rw [table_push_of_ne s row hut, table_push_of_ne s' row hut, h u hu]

/-- A row of a table that is not selected. -/
theorem agreesOn_push (s : Store) (row : List String) (ht : T t = false) :
    AgreesOn T (s.push row t) s := by
  intro u hu
  have hut : u ≠ t := by
    rintro rfl
    exact Bool.false_ne_true (ht.symm.trans hu)
  exact table_push_of_ne s row hut

/-- What becomes of a tuple is decided by its own table. -/
theorem insertRow_congr (h : s.table t = s'.table t) (values : List String) :
    (∃ cause, s.insertRow t values = .error cause ∧ s'.insertRow t values = .error cause) ∨
      ∃ id, s.insertRow t values = .ok (s.push (numberedRow id values) t, id) ∧
        s'.insertRow t values = .ok (s'.push (numberedRow id values) t, id) := by
  have hcolumns : s.expectedColumns t = s'.expectedColumns t := by
    simp only [expectedColumns, h]
  have hviolated : s.violated? t (candidateRow t values) = s'.violated? t (candidateRow t values) := by
    simp only [violated?, h]
  have hid : s.assignId t = s'.assignId t := by
    simp only [assignId, h]
  cases hinsert : s.insertRow t values with
  | error cause =>
    refine .inl ⟨cause, rfl, ?_⟩
    rw [insertRow_eq_error_iff, hcolumns, hviolated, hid] at hinsert
    exact insertRow_eq_error_iff.2 hinsert
  | ok stored =>
    obtain ⟨s₁, id⟩ := stored
    rw [insertRow_eq_ok_iff, hcolumns, hviolated, hid] at hinsert
    obtain ⟨hlength, hunique, hassign, rfl⟩ := hinsert
    exact .inr ⟨id, rfl, insertRow_eq_ok_iff.2 ⟨hlength, hunique, hassign, rfl⟩⟩

end Store

open Store

/-! ### Attempts -/

namespace Engine

variable (e : Engine) {T : TableName → Bool} {s s' : Store} {t : TableName}

/-- A tuple does the same to two stores that agree on its table. -/
theorem attempt_insert_agreesOn (h : AgreesOn T s s') (ht : T t) (values : List String) :
    (e.attempt s (.insert t values)).records = (e.attempt s' (.insert t values)).records ∧
      AgreesOn T (e.attempt s (.insert t values)).store
        (e.attempt s' (.insert t values)).store := by
  rcases insertRow_congr (h t ht) values with ⟨cause, hs, hs'⟩ | ⟨id, hs, hs'⟩
  · rw [e.attempt_insert_of_error hs, e.attempt_insert_of_error hs']
    exact ⟨rfl, h⟩
  · rw [e.attempt_insert_of_ok hs, e.attempt_insert_of_ok hs']
    exact ⟨rfl, h.push (numberedRow id values) t⟩

/-- So do several tuples, one after the other. -/
theorem run_insert_agreesOn (h : AgreesOn T s s') (ht : T t) (tuples : List (List String)) :
    (e.run s (tuples.map (.insert t))).records = (e.run s' (tuples.map (.insert t))).records ∧
      AgreesOn T (e.run s (tuples.map (.insert t))).store
        (e.run s' (tuples.map (.insert t))).store := by
  induction tuples generalizing s s' with
  | nil => exact ⟨rfl, h⟩
  | cons values tuples ih =>
    obtain ⟨hrecords, hstore⟩ := e.attempt_insert_agreesOn h ht values
    obtain ⟨hrecords', hstore'⟩ := ih hstore
    refine ⟨?_, hstore'⟩
    rw [List.map_cons, run_cons, run_cons, Progress.records_andThen, Progress.records_andThen,
      hrecords, hrecords']

/-- Tuples of a table that is not selected leave the selected ones alone. -/
theorem run_insert_of_unselected (s : Store) (ht : T t = false) (tuples : List (List String)) :
    AgreesOn T (e.run s (tuples.map (.insert t))).store s := by
  refine e.run_induction (P := fun s' => AgreesOn T s' s) ?_ (AgreesOn.refl T s)
  intro s₁ u values s₂ id hmem hagrees hstored
  -- all of the tuples are given for the same table
  obtain ⟨_, -, heq⟩ := List.mem_map.1 hmem
  obtain ⟨rfl, -⟩ := Attempt.insert.inj heq
  obtain ⟨-, -, -, rfl⟩ := insertRow_eq_ok_iff.1 hstored
  exact (agreesOn_push s₁ _ ht).trans hagrees

/-! ### Statements -/

/-- A statement for a selected table, or for none, does the same to two stores that agree on the
selected tables. -/
theorem executeStatement_agreesOn (h : AgreesOn T s s') {statement : String}
    (hT : ∀ t, targetTable? statement = some t → T t) :
    (e.executeStatement s statement).records = (e.executeStatement s' statement).records ∧
      AgreesOn T (e.executeStatement s statement).store
        (e.executeStatement s' statement).store := by
  rw [executeStatement_eq_run, executeStatement_eq_run]
  rcases Attempt.ofStatement_cases statement with ⟨t, tuples, ht, has⟩ | ⟨cause, -, has⟩
  · rw [has]
    exact e.run_insert_agreesOn h (hT t ht) tuples
  · rw [has]
    exact ⟨rfl, h⟩

/-- A statement for a table that is not selected, or for none, leaves the selected tables alone. -/
theorem executeStatement_of_unselected (s : Store) {statement : String}
    (hT : ∀ t, targetTable? statement = some t → T t = false) :
    AgreesOn T (e.executeStatement s statement).store s := by
  rw [executeStatement_eq_run]
  rcases Attempt.ofStatement_cases statement with ⟨t, tuples, ht, has⟩ | ⟨cause, -, has⟩
  · rw [has]
    exact e.run_insert_of_unselected s (hT t ht) tuples
  · rw [has]
    exact AgreesOn.refl T s

/-! ### Runs of statements -/

/-- Statements executed one after the other, each with the records that it leaves. -/
def account (s : Store) : List String → List (String × List Record)
  | [] => []
  | text :: texts =>
    (text, (e.executeStatement s text).records) :: account (e.executeStatement s text).store texts

/-- The records of those of the statements that `keep` selects. -/
def recordsOf (keep : String → Bool) (s : Store) (texts : List String) : List Record :=
  ((e.account s texts).filter fun p => keep p.1).flatMap Prod.snd

theorem map_fst_account (s : Store) (texts : List String) :
    (e.account s texts).map Prod.fst = texts := by
  induction texts generalizing s with
  | nil => rfl
  | cons text texts ih => rw [account, List.map_cons, ih]

/-- The account of statements holds all of their records. -/
theorem flatMap_snd_account (s : Store) (texts : List String) :
    (e.account s texts).flatMap Prod.snd =
      (e.run s (texts.flatMap Attempt.ofStatement)).records := by
  induction texts generalizing s with
  | nil => rfl
  | cons text texts ih =>
    rw [account, List.flatMap_cons, ih, List.flatMap_cons, run_append, Progress.records_andThen,
      executeStatement_eq_run]

end Engine

/-- `Selects keep T` says `keep` selects the statements for the tables of `T` and none of those for
another table.  Which of the statements for no table it selects is open. -/
def Selects (keep : String → Bool) (T : TableName → Bool) : Prop :=
  ∀ text t, targetTable? text = some t → keep text = T t

namespace Engine

variable (e : Engine) {T : TableName → Bool} {keep : String → Bool} {s s' : Store}

/-- Statements that are not selected can be left out: the selected ones leave the same records, and
the selected tables end up the same. -/
theorem account_filter (hkeep : Selects keep T) (h : AgreesOn T s s') (texts : List String) :
    (e.account s texts).filter (fun p => keep p.1) = e.account s' (texts.filter keep) ∧
      AgreesOn T (e.run s (texts.flatMap Attempt.ofStatement)).store
        (e.run s' ((texts.filter keep).flatMap Attempt.ofStatement)).store := by
  induction texts generalizing s s' with
  | nil => exact ⟨rfl, h⟩
  | cons text texts ih =>
    rw [account, List.flatMap_cons, run_append, Progress.store_andThen,
      ← executeStatement_eq_run]
    cases hselected : keep text with
    | true =>
      -- both runs execute the statement, and their stores still agree behind it
      obtain ⟨hrecords, hstore⟩ := e.executeStatement_agreesOn h fun t ht =>
        (hkeep text t ht).symm.trans hselected
      obtain ⟨haccount, hrest⟩ := ih hstore
      simp only [List.filter_cons, hselected, if_true, haccount, account, hrecords,
        List.flatMap_cons, run_append, Progress.store_andThen, ← executeStatement_eq_run,
        true_and]
      exact hrest
    | false =>
      -- only one run executes the statement, and all that it changes are other tables
      have hunselected : AgreesOn T (e.executeStatement s text).store s :=
        e.executeStatement_of_unselected s fun t ht => (hkeep text t ht).symm.trans hselected
      simp only [List.filter_cons, hselected, Bool.false_eq_true, if_false]
      exact ih (hunselected.trans h)

/-! ### Submissions -/

/-- The records of submissions are those in the account of all of their statements. -/
theorem log_eq_flatMap_account (st : State) (submissions : List String) :
    e.log st submissions =
      (e.account st.store (submissions.flatMap statements)).flatMap Prod.snd := by
  rw [log_eq, flatMap_snd_account, List.flatMap_assoc]
  rfl

/-- Two callers begin alike, and the second one only submits a selection of the statements of the
first one.  The selected tables end up the same for both, so does the index if the indexed table is
among them, and the second one gets the records that the first one gets for the selection. -/
theorem submitAll_select (hkeep : Selects keep T) (s : Store) {submissions selection : List String}
    (hselection : selection.flatMap statements = (submissions.flatMap statements).filter keep) :
    AgreesOn T (e.submitAll (e.start s) selection).store
        (e.submitAll (e.start s) submissions).store ∧
      (T indexedTable → (e.submitAll (e.start s) selection).index =
        (e.submitAll (e.start s) submissions).index) ∧
      e.log (e.start s) selection = e.recordsOf keep s (submissions.flatMap statements) := by
  obtain ⟨haccount, hstore⟩ := e.account_filter hkeep (AgreesOn.refl T s)
    (submissions.flatMap statements)
  rw [← hselection] at haccount hstore
  have hagrees : AgreesOn T (e.submitAll (e.start s) selection).store
      (e.submitAll (e.start s) submissions).store := by
    rw [store_submitAll, store_submitAll]
    rw [List.flatMap_assoc, List.flatMap_assoc] at hstore
    exact hstore.symm
  refine ⟨hagrees, fun hindexed => ?_, ?_⟩
  · rw [e.index_submitAll rfl, e.index_submitAll rfl]
    exact e.rebuildIndex_congr (hagrees indexedTable hindexed)
  · rw [log_eq_flatMap_account, recordsOf, haccount]
    rfl

/-- Statements for one of the tables, and those for none, have no influence on the other table.
Submissions with the statements for one table alone, in whatever parts, leave that table behind as
all submissions do, the index if the table is indexed, and the records of its statements.  And
statements for no table can be left out, some or all of them, without any other effect than that
their own records are missing. -/
theorem tables_independent (s : Store) (submissions : List String) :
    let st := e.submitAll (e.start s) submissions
    let texts := submissions.flatMap statements
    ((e.account s texts).map Prod.fst = texts ∧
        e.log (e.start s) submissions = (e.account s texts).flatMap Prod.snd) ∧
      (∀ t selection, selection.flatMap statements =
          texts.filter (fun text => targetTable? text = some t) →
        (e.submitAll (e.start s) selection).store.table t = st.store.table t ∧
          (t = indexedTable → (e.submitAll (e.start s) selection).index = st.index) ∧
          e.log (e.start s) selection =
            e.recordsOf (fun text => targetTable? text = some t) s texts) ∧
      ∀ keep selection, (∀ text, (targetTable? text).isSome → keep text) →
        selection.flatMap statements = texts.filter keep →
        (e.submitAll (e.start s) selection).store = st.store ∧
          (e.submitAll (e.start s) selection).index = st.index ∧
          e.log (e.start s) selection = e.recordsOf keep s texts := by
  intro st texts
  refine ⟨⟨e.map_fst_account s texts, e.log_eq_flatMap_account (e.start s) submissions⟩, ?_, ?_⟩
  · intro t selection hselection
    have hselects : Selects (fun text => targetTable? text = some t) (fun u => u = t) := by
      intro text u hu
      simp [hu]
    obtain ⟨hagrees, hindex, hrecords⟩ := e.submitAll_select hselects s hselection
    refine ⟨hagrees t (decide_eq_true rfl), fun ht => ?_, hrecords⟩
    exact hindex (decide_eq_true ht.symm)
  · intro keep selection hkeep hselection
    -- a selection that keeps the statements for both tables
    have hselects : Selects keep (fun _ => true) := by
      intro text t ht
      exact hkeep text (Option.isSome_iff_exists.2 ⟨t, ht⟩)
    obtain ⟨hagrees, hindex, hrecords⟩ := e.submitAll_select hselects s hselection
    exact ⟨hagrees.eq, hindex rfl, hrecords⟩

/-- Submissions of statements for the dogs, for the owners and for no table. -/
def mixedSubmissions : List String :=
  ["INSERT INTO dogs VALUES (Pug,Al,4)", "INSERT INTO owners VALUES (4,Eva); DROP dogs",
    "INSERT INTO perros VALUES (Pug,AL,4)"]

/-- Their statements for the dogs. -/
def dogSubmissions : List String :=
  ["INSERT INTO dogs VALUES (Pug,Al,4)",
    "INSERT INTO perros VALUES (Pug,AL,4)"]

/-- Their statements for either of the tables. -/
def dogAndOwnerSubmissions : List String :=
  ["INSERT INTO dogs VALUES (Pug,Al,4)", "INSERT INTO owners VALUES (4,Eva)",
    "INSERT INTO perros VALUES (Pug,AL,4)"]

theorem tables_independent_mixed :
    dogSubmissions.flatMap statements =
        (mixedSubmissions.flatMap statements).filter
          (fun text => targetTable? text = some .dogs) ∧
      dogAndOwnerSubmissions.flatMap statements =
        (mixedSubmissions.flatMap statements).filter (fun text => (targetTable? text).isSome) ∧
      (default.submitAll (default.start .initial) dogSubmissions).store.dogs =
        (default.submitAll (default.start .initial) mixedSubmissions).store.dogs ∧
      (default.submitAll (default.start .initial) dogSubmissions).index =
        (default.submitAll (default.start .initial) mixedSubmissions).index ∧
      (default.submitAll (default.start .initial) dogAndOwnerSubmissions).store =
        (default.submitAll (default.start .initial) mixedSubmissions).store := by
  have hdogs : dogSubmissions.flatMap statements =
      (mixedSubmissions.flatMap statements).filter
        (fun text => targetTable? text = some .dogs) := by
    decide +kernel
  have hboth : dogAndOwnerSubmissions.flatMap statements =
      (mixedSubmissions.flatMap statements).filter (fun text => (targetTable? text).isSome) := by
    decide +kernel
  obtain ⟨-, htable, hnone⟩ := tables_independent default .initial mixedSubmissions
  obtain ⟨hstore, hindex, -⟩ := htable .dogs dogSubmissions hdogs
  obtain ⟨hstore', -⟩ := hnone _ dogAndOwnerSubmissions (fun _ hsome => hsome) hboth
  exact ⟨hdogs, hboth, hstore, hindex rfl, hstore'⟩

end Engine

end DogRegistry
