import DogRegistry.Proofs.Engine.Submission
import DogRegistry.Proofs.RowId
import DogRegistry.Proofs.Statement.Tuples
import DogRegistry.Proofs.Store

/-!
# Reopening the registry

A store is kept as the texts of its tables, and its index is built anew when it is loaded.  No
statement brings a comma into a cell and every row has two cells or more, so a row can be told from
its line unless there is a line feed in one of its values.  Such a row is read as several ones.

## Main definitions

* `Store.reread` — the store that the texts of a store are read as.
* `Table.Delimited` — no cell of a table holds a comma, and no row can look like a blank line.
* `Store.Tabular` — both tables have their columns and are delimited.
* `Engine.reopen` — what a caller holds who saves the store and starts again with what is loaded.

## Main results

* `Store.load_texts` — the texts of a store can be read if its headers are canonical.
* `Engine.comma_not_mem_of_mem_attempts` — no submission gives a value with a comma.
* `Engine.tabular_submitAll` — so submissions keep a store tabular.
* `Engine.reopen_submitAll` — what submissions leave behind can always be reopened, and it is the
  same if and only if no row holds a line feed.
-/

namespace DogRegistry

open Text

/-! ### Loading -/

/-- The store that the texts of a store are read as. -/
def Store.reread (s : Store) : Store :=
  ⟨s.owners.reread, s.dogs.reread⟩

/-- The texts of a store can be loaded if its headers are canonical, whatever the rows hold. -/
theorem Store.load_texts {s : Store} (hheader : ∀ t, CanonicalRow (s.table t).header) :
    Store.load s.texts = .ok s.reread := by
  refine load_texts_eq_ok_iff.2 fun t => ?_
  rw [Table.parse_toText (hheader t)]
  cases t <;> rfl

/-! ### Tables that can be told from their texts -/

/-- The header and every row have two cells or more, and no cell holds a comma. -/
def Table.Delimited (t : Table) : Prop :=
  ∀ cells ∈ t.header :: t.rows, 2 ≤ cells.length ∧ ∀ cell ∈ cells, ',' ∉ cell.toList

namespace Table

variable {t : Table}

/-- Apart from the separator of the cells, only the one of the rows can come in the way. -/
theorem Delimited.canonical_iff (h : t.Delimited) :
    t.Canonical ↔ ∀ cells ∈ t.header :: t.rows, ∀ cell ∈ cells, '\n' ∉ cell.toList := by
  refine forall₂_congr fun cells hcells => ⟨fun hrow => hrow.lineFeed_not_mem, fun hlineFeed => ?_⟩
  obtain ⟨hlength, hcomma⟩ := h cells hcells
  exact .of_two_le_length hlength hcomma hlineFeed

theorem Delimited.push (h : t.Delimited) {row : List String} (hlength : 2 ≤ row.length)
    (hcomma : ∀ cell ∈ row, ',' ∉ cell.toList) : (t.push row).Delimited := by
  intro cells hcells
  rw [header_push, rows_push, ← List.cons_append, List.mem_append, List.mem_singleton] at hcells
  rcases hcells with hcells | rfl
  · exact h cells hcells
  · exact ⟨hlength, hcomma⟩

/-- A table is read as itself if and only if it is canonical. -/
theorem reread_eq_iff (h : CanonicalRow t.header) : t.reread = t ↔ t.Canonical := by
  rw [← parse_toText_iff, parse_toText h, Except.ok.injEq]

end Table

/-- Both tables of the store have the columns of the catalog and are delimited. -/
structure Store.Tabular (s : Store) : Prop where
  /-- The headers are those of the catalog. -/
  header : ∀ t, (s.table t).header = t.schema.columns
  /-- No cell holds a comma, and no row can look like a blank line. -/
  delimited : ∀ t, (s.table t).Delimited

namespace Store

theorem tabular_initial : initial.Tabular where
  header t := by cases t <;> rfl
  delimited t := by
    rw [Table.Delimited]
    cases t <;> decide

theorem tabular_empty : empty.Tabular where
  header t := by cases t <;> rfl
  delimited t := by
    rw [Table.Delimited]
    cases t <;> decide

theorem lineFeed_not_mem_columns (t : TableName) :
    ∀ column ∈ t.schema.columns, '\n' ∉ column.toList := by
  cases t <;> decide

/-- A number has no comma, so a row holds one only if a value does. -/
theorem comma_not_mem_numberedRow {id : Option RowId} {values : List String}
    (h : ∀ value ∈ values, ',' ∉ value.toList) :
    ∀ cell ∈ numberedRow id values, ',' ∉ cell.toList := by
  cases id with
  | none => exact h
  | some id =>
    refine List.forall_mem_cons.2 ⟨fun hcomma => ?_, h⟩
    exact absurd (RowId.isDigit_of_mem_toText hcomma) (by decide)

namespace Tabular

variable {s s' : Store}

theorem canonicalRow_header (h : s.Tabular) (t : TableName) :
    CanonicalRow (s.table t).header := by
  obtain ⟨hlength, hcomma⟩ := h.delimited t _ List.mem_cons_self
  refine .of_two_le_length hlength hcomma ?_
  rw [h.header t]
  exact lineFeed_not_mem_columns t

/-- A row without commas that is stored keeps a store tabular. -/
theorem insertRow (h : s.Tabular) {t : TableName} {values : List String} {id : Option RowId}
    (hcomma : ∀ value ∈ values, ',' ∉ value.toList)
    (hstored : s.insertRow t values = .ok (s', id)) : s'.Tabular := by
  obtain ⟨hlength, -, hid, rfl⟩ := insertRow_eq_ok_iff.1 hstored
  have htwo : 2 ≤ (numberedRow id values).length := by
    cases t with
    | owners =>
      obtain rfl : none = id := Except.ok.inj hid
      rw [expectedColumns, if_neg (by decide), h.header .owners] at hlength
      exact Nat.le_of_eq hlength.symm
    | dogs =>
      obtain ⟨next, -, rfl⟩ := assignId_dogs_eq_ok_iff.1 hid
      have hthree : values.length = 3 := hlength
      rw [numberedRow, List.length_cons, hthree]
      decide
  refine ⟨fun u => ?_, fun u => ?_⟩
  · by_cases hu : u = t
    · rw [hu, table_push_self, Table.header_push, h.header t]
    · rw [table_push_of_ne s _ hu, h.header u]
  · by_cases hu : u = t
    · rw [hu, table_push_self]
      exact (h.delimited t).push htwo (comma_not_mem_numberedRow hcomma)
    · rw [table_push_of_ne s _ hu]
      exact h.delimited u

/-- A tabular store is read as itself if and only if no row holds a line feed. -/
theorem reread_eq_iff (h : s.Tabular) :
    s.reread = s ↔ ∀ t, ∀ row ∈ (s.table t).rows, ∀ cell ∈ row, '\n' ∉ cell.toList := by
  have htable : ∀ t, (s.table t).reread = s.table t ↔
      ∀ row ∈ (s.table t).rows, ∀ cell ∈ row, '\n' ∉ cell.toList := by
    intro t
    rw [Table.reread_eq_iff (h.canonicalRow_header t), (h.delimited t).canonical_iff,
      List.forall_mem_cons, h.header t]
    exact and_iff_right (lineFeed_not_mem_columns t)
  have hstore : s.reread = s ↔ ∀ t, (s.table t).reread = s.table t := by
    constructor
    · intro heq t
      cases t with
      | owners => exact congrArg owners heq
      | dogs => exact congrArg dogs heq
    · intro heq
      rw [reread, show s.owners.reread = s.owners from heq .owners,
        show s.dogs.reread = s.dogs from heq .dogs]
  rw [hstore]
  exact forall_congr' htable

end Tabular

end Store

/-! ### Submissions -/

/-- No submission gives a value with a comma. -/
theorem comma_not_mem_of_mem_attempts {submission : String} {t : TableName} {values : List String}
    (h : Attempt.insert t values ∈ attempts submission) :
    ∀ value ∈ values, ',' ∉ value.toList := by
  obtain ⟨statement, -, hstatement⟩ := List.mem_flatMap.1 h
  cases hparse : InsertStatement.parse statement with
  | error cause =>
    rw [Attempt.ofStatement_of_error hparse] at hstatement
    exact absurd hstatement (by simp)
  | ok parsed =>
    cases htable : TableName.resolve? parsed.table with
    | none =>
      rw [Attempt.ofStatement_of_none hparse htable] at hstatement
      exact absurd hstatement (by simp)
    | some u =>
      rw [Attempt.ofStatement_of_some hparse htable] at hstatement
      obtain ⟨tuple, htuple, heq⟩ := List.mem_map.1 hstatement
      obtain ⟨-, rfl⟩ := Attempt.insert.inj heq
      exact InsertStatement.comma_not_mem_of_parse hparse tuple htuple

namespace Engine

variable (e : Engine)

/-- Submissions keep a store tabular. -/
theorem tabular_submitAll {st : State} (h : st.store.Tabular) (submissions : List String) :
    (e.submitAll st submissions).store.Tabular := by
  refine e.submitAll_induction ?_ h
  intro s t values s' id hmem hs hstored
  obtain ⟨submission, -, hattempt⟩ := List.mem_flatMap.1 hmem
  exact hs.insertRow (comma_not_mem_of_mem_attempts hattempt) hstored

/-- What a caller holds who saves the store and starts again with what is loaded. -/
def reopen (st : State) : Except StoreError State :=
  (Store.load st.store.texts).map e.start

/-- Whatever is submitted to an engine that starts with the first store or with the empty one, what
is there can be reopened.  Each row is then read line by line, and all is as it was, the index
included, if and only if no row holds a line feed. -/
theorem reopen_submitAll {s : Store} (hs : s ∈ [Store.initial, Store.empty])
    (submissions : List String) :
    e.reopen (e.submitAll (e.start s) submissions) =
        .ok (e.start (e.submitAll (e.start s) submissions).store.reread) ∧
      (e.reopen (e.submitAll (e.start s) submissions) = .ok (e.submitAll (e.start s) submissions) ↔
        ∀ t, ∀ row ∈ ((e.submitAll (e.start s) submissions).store.table t).rows,
          ∀ cell ∈ row, '\n' ∉ cell.toList) := by
  have hstart : (e.start s).store.Tabular := by
    rcases List.mem_pair.1 hs with rfl | rfl
    · exact Store.tabular_initial
    · exact Store.tabular_empty
  have htabular := e.tabular_submitAll hstart submissions
  have hfresh : (e.start s).index = e.rebuildIndex (e.start s).store := rfl
  have hindex := e.index_submitAll hfresh submissions
  generalize e.submitAll (e.start s) submissions = st at htabular hindex ⊢
  have hreopen : e.reopen st = .ok (e.start st.store.reread) := by
    rw [reopen, Store.load_texts htabular.canonicalRow_header]
    rfl
  -- the index that is built over the store is the one that was there
  have hsame : e.start st.store = st := by
    rw [start, ← hindex]
  refine ⟨hreopen, ?_⟩
  rw [← htabular.reread_eq_iff, hreopen, Except.ok.injEq]
  constructor
  · exact fun heq => congrArg State.store heq
  · intro heq
    rw [heq, hsame]

/-- A line feed between the words of a statement does no harm. -/
theorem reopen_submitAll_rex :
    Store.initial ∈ [Store.initial, Store.empty] ∧
      default.reopen (default.submitAll (default.start .initial)
          ["INSERT INTO dogs\nVALUES ('Boxer', ' Rex ', '1')"]) =
        .ok (default.submitAll (default.start .initial)
          ["INSERT INTO dogs\nVALUES ('Boxer', ' Rex ', '1')"]) := by
  have hmem : Store.initial ∈ [Store.initial, Store.empty] := List.mem_cons_self
  refine ⟨hmem, (reopen_submitAll default hmem _).2.2 ?_⟩
  have hstore : (default.submitAll (default.start .initial)
      ["INSERT INTO dogs\nVALUES ('Boxer', ' Rex ', '1')"]).store =
        Store.initial.push ["104", "Boxer", " Rex ", "1"] .dogs := by
    rw [store_submitAll]
    decide +kernel
  rw [hstore]
  intro t
  cases t with
  | owners => decide
  | dogs => decide

/-- A line feed inside a value does: the row is cut in two. -/
theorem not_load_texts_submitAll : ¬ ∀ submissions : List String,
    Store.load (default.submitAll (default.start .initial) submissions).store.texts =
      .ok (default.submitAll (default.start .initial) submissions).store := by
  intro hlossless
  have hloaded := hlossless ["INSERT INTO owners VALUES (4, 'Ana\nRuiz')"]
  rw [store_submitAll] at hloaded
  revert hloaded
  decide +kernel

end Engine

end DogRegistry
