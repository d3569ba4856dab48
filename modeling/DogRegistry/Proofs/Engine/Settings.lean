import DogRegistry.Proofs.Engine.Search

/-!
# Two settings of the index

Order and split policy decide how the nodes of an index are cut, and so which steps a look-up takes.
Nothing else depends on them: an attempt never reads an index, and a search only reads what an index
holds.  Two engines with any settings that begin with the same store therefore remain abreast.

## Main definitions

* `Engine.Abreast e e' st st'` — the same store, and over it the index of either engine.

## Main results

* `Engine.run_settings` — attempts have the same outcome.
* `Engine.execute_settings` — submissions return the same, the nodes of the index apart.
* `Engine.Abreast.submitAll` — submissions keep two callers abreast.
* `Engine.Abreast.search_eq` — and searches find the same for both.
* `Engine.settings_unobservable` — the settings of the index cannot be told from what submissions
  and searches return.
-/

namespace DogRegistry

namespace Engine

variable (e e' : Engine)

/-! ### Attempts -/

/-- An attempt has the same outcome under all settings. -/
theorem attempt_settings (s : Store) (a : Attempt) :
    (e.attempt s a).store = (e'.attempt s a).store ∧
      (e.attempt s a).records = (e'.attempt s a).records ∧
      (e.attempt s a).index.isSome = (e'.attempt s a).index.isSome := by
  cases a with
  | reject statement cause => exact ⟨rfl, rfl, rfl⟩
  | insert t values =>
    cases hinsert : s.insertRow t values with
    | error cause =>
      rw [e.attempt_insert_of_error hinsert, e'.attempt_insert_of_error hinsert]
      exact ⟨rfl, rfl, rfl⟩
    | ok stored =>
      obtain ⟨s', id⟩ := stored
      rw [e.attempt_insert_of_ok hinsert, e'.attempt_insert_of_ok hinsert]
      refine ⟨rfl, rfl, ?_⟩
      -- whether an index is built depends on the table
      cases t.schema.indexColumn.isSome <;> rfl

/-- So do attempts made one after the other. -/
theorem run_settings (s : Store) (as : List Attempt) :
    (e.run s as).store = (e'.run s as).store ∧
      (e.run s as).records = (e'.run s as).records ∧
      (e.run s as).index.isSome = (e'.run s as).index.isSome := by
  induction as generalizing s with
  | nil => exact ⟨rfl, rfl, rfl⟩
  | cons a as ih =>
    obtain ⟨hstore, hrecords, hindex⟩ := attempt_settings e e' s a
    obtain ⟨hstore', hrecords', hindex'⟩ := ih (e.attempt s a).store
    simp only [run_cons, Progress.store_andThen, Progress.records_andThen, Progress.index_andThen,
      Option.isSome_or]
    rw [← hstore, hrecords, hindex, hstore', hrecords', hindex']
    exact ⟨rfl, rfl, rfl⟩

/-- A submission returns the same records and the same store under all settings, whatever index is
passed in, and an index under both or under neither. -/
theorem execute_settings (s : Store) (index index' : Tree) (submission : String) :
    (e.execute s index submission).records = (e'.execute s index' submission).records ∧
      (e.execute s index submission).store = (e'.execute s index' submission).store ∧
      (e.execute s index submission).index.isSome =
        (e'.execute s index' submission).index.isSome := by
  obtain ⟨hstore, hrecords, -⟩ := run_settings e e' s (attempts submission)
  rw [execute_eq, execute_eq, hrecords, hstore]
  split
  next => exact ⟨rfl, rfl, rfl⟩
  next => exact ⟨rfl, rfl, rfl⟩

/-! ### Callers -/

/-- Two callers hold the same store, and each of them the index that its engine builds over it. -/
structure Abreast (st st' : State) : Prop where
  /-- The stores are the same. -/
  store_eq : st.store = st'.store
  /-- The index of the first caller is in step. -/
  index_left : st.index = e.rebuildIndex st.store
  /-- The index of the second caller is in step. -/
  index_right : st'.index = e'.rebuildIndex st'.store

theorem abreast_start (s : Store) : Abreast e e' (e.start s) (e'.start s) :=
  ⟨rfl, rfl, rfl⟩

namespace Abreast

variable {e e'} {st st' : State}

/-- A submission keeps two callers abreast. -/
theorem submit (h : Abreast e e' st st') (submission : String) :
    Abreast e e' (e.submit st submission) (e'.submit st' submission) where
  store_eq := by
    rw [submit_eq, submit_eq, h.store_eq]
    exact (run_settings e e' st'.store (attempts submission)).1
  index_left := e.index_submit h.index_left submission
  index_right := e'.index_submit h.index_right submission

/-- So do submissions made one after the other. -/
theorem submitAll (h : Abreast e e' st st') (submissions : List String) :
    Abreast e e' (e.submitAll st submissions) (e'.submitAll st' submissions) := by
  induction submissions generalizing st st' with
  | nil => exact h
  | cons submission submissions ih => exact ih (h.submit submission)

/-- The same records are written for both. -/
theorem log_eq_log (h : Abreast e e' st st') (submissions : List String) :
    e.log st submissions = e'.log st' submissions := by
  rw [log_eq, log_eq, h.store_eq]
  exact (run_settings e e' st'.store _).2.1

/-- The two indexes hold the same keys with the same identifiers. -/
theorem entries_eq (h : Abreast e e' st st') : st.index.entries = st'.index.entries := by
  rw [h.index_left, h.index_right, h.store_eq, rebuildIndex_eq, rebuildIndex_eq,
    Tree.entries_ofEntries e.valid, Tree.entries_ofEntries e'.valid]

/-- Searches find the same for both. -/
theorem search_eq (h : Abreast e e' st st') (term : String) :
    (search term st.index st.store).rowIds = (search term st'.index st'.store).rowIds ∧
      (search term st.index st.store).rows = (search term st'.index st'.store).rows := by
  rw [h.index_left, h.index_right, h.store_eq, rowIds_search, rowIds_search, rows_search,
    rows_search]
  exact ⟨rfl, rfl⟩

end Abreast

/-- Two engines with any valid settings of the index begin with the same store and are given the
same submissions.  They have then written the same records and hold the same store and indexes with
the same entries, the next submission returns the same records and the same store, and an index for
both or for neither, and every search finds the same identifiers and the same rows. -/
theorem settings_unobservable (s : Store) (submissions : List String) :
    let st := e.submitAll (e.start s) submissions
    let st' := e'.submitAll (e'.start s) submissions
    e.log (e.start s) submissions = e'.log (e'.start s) submissions ∧
      st.store = st'.store ∧ st.index.entries = st'.index.entries ∧
      (∀ submission,
        (e.execute st.store st.index submission).records =
            (e'.execute st'.store st'.index submission).records ∧
          (e.execute st.store st.index submission).store =
            (e'.execute st'.store st'.index submission).store ∧
          (e.execute st.store st.index submission).index.isSome =
            (e'.execute st'.store st'.index submission).index.isSome) ∧
      ∀ term,
        (search term st.index st.store).rowIds = (search term st'.index st'.store).rowIds ∧
          (search term st.index st.store).rows = (search term st'.index st'.store).rows := by
  intro st st'
  have hstart : Abreast e e' (e.start s) (e'.start s) := abreast_start e e' s
  have h : Abreast e e' st st' := hstart.submitAll submissions
  refine ⟨hstart.log_eq_log submissions, h.store_eq, h.entries_eq, fun submission => ?_,
    h.search_eq⟩
  rw [h.store_eq]
  exact execute_settings e e' st'.store st.index st'.index submission

end Engine

end DogRegistry
