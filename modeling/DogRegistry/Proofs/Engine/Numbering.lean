import DogRegistry.Proofs.Engine.Submission
import DogRegistry.Proofs.RowId

/-!
# The numbers of the dogs

The registry writes a number into the first cell of every dog that it stores, one more than the
number of the newest dog.  As long as all numbers in the table are of that kind they ascend, so no
two dogs share one.

## Main definitions

* `rowId? row` — the identifier in the first cell of a row.
* `Table.Numbered` — every row has an identifier, and they ascend.

## Main results

* `Table.Numbered.push` — the identifier that comes next keeps a table numbered.
* `Store.numbered_insertRow`, `Engine.numbered_submitAll` — a row that is stored keeps the dogs
  numbered, and so do submissions.
* `Table.Numbered.nodup` — no identifier occurs twice in a numbered table.
-/

namespace DogRegistry

/-- The identifier in the first cell of a row, if there is one. -/
def rowId? (row : List String) : Option RowId :=
  row.head?.bind RowId.parse?

/-- Every row of the table has an identifier, and it is larger than those of the rows before. -/
structure Table.Numbered (t : Table) : Prop where
  /-- Every row has an identifier. -/
  isSome_rowId? : ∀ row ∈ t.rows, (rowId? row).isSome
  /-- The identifiers ascend. -/
  ascending : (t.rows.filterMap rowId?).Pairwise fun a b => a.toNat < b.toNat

/-- The identifier of a row can be read off it. -/
theorem rowId?_numberedRow (id : RowId) (values : List String) :
    rowId? (numberedRow (some id) values) = some id :=
  RowId.parse?_toText id

namespace Table

variable {t : Table}

theorem lastRowId?_eq (t : Table) : t.lastRowId? = t.rows.getLast?.bind rowId? := by
  rw [lastRowId?, lastRow?]
  cases t.rows.getLast? with
  | none => rfl
  | some row => rfl

namespace Numbered

/-- No identifier occurs twice in a numbered table. -/
theorem nodup (h : t.Numbered) : (t.rows.filterMap rowId?).Nodup :=
  h.ascending.imp fun hlt heq => absurd (congrArg RowId.toNat heq) (Nat.ne_of_lt hlt)

/-- All identifiers of a numbered table are smaller than the one that comes next. -/
theorem lt_of_nextRowId? (h : t.Numbered) {id : RowId} (hid : t.nextRowId? = some id) :
    ∀ a ∈ t.rows.filterMap rowId?, a.toNat < id.toNat := by
  intro a ha
  have hsome := h.isSome_rowId?
  have hascending := h.ascending
  rw [nextRowId?, lastRowId?_eq] at hid
  rcases List.eq_nil_or_concat t.rows with hrows | ⟨rows, last, hrows⟩
  · rw [hrows] at ha
    exact absurd ha List.not_mem_nil
  · rw [List.concat_eq_append] at hrows
    rw [hrows] at ha hsome hascending hid
    obtain ⟨newest, hnewest⟩ := Option.isSome_iff_exists.1 (hsome last (by simp))
    have hnext : id.toNat = newest.toNat + 1 := by
      rw [List.getLast?_concat, Option.bind_some, hnewest] at hid
      exact RowId.toNat_of_next? hid
    have hsplit : (rows ++ [last]).filterMap rowId? = rows.filterMap rowId? ++ [newest] := by
      rw [List.filterMap_append, List.filterMap_cons_some hnewest, List.filterMap_nil]
    rw [hsplit] at ha hascending
    -- the newest row has the largest identifier so far
    rcases List.mem_append.1 ha with ha | ha
    · have hlt := (List.pairwise_append.1 hascending).2.2 a ha newest (List.mem_singleton_self _)
      omega
    · rw [List.mem_singleton.1 ha]
      omega

/-- A row with the identifier that comes next keeps a table numbered. -/
theorem push (h : t.Numbered) {id : RowId} (hid : t.nextRowId? = some id) (values : List String) :
    (t.push (numberedRow (some id) values)).Numbered where
  isSome_rowId? row hrow := by
    rw [rows_push] at hrow
    rcases List.mem_append.1 hrow with hrow | hrow
    · exact h.isSome_rowId? row hrow
    · rw [List.mem_singleton.1 hrow, rowId?_numberedRow, Option.isSome_some]
  ascending := by
    rw [rows_push, List.filterMap_append, List.filterMap_cons_some (rowId?_numberedRow id values)]
    refine List.pairwise_append.2 ⟨h.ascending, List.pairwise_singleton _ _, ?_⟩
    intro a ha b hb
    rw [List.mem_singleton.1 hb]
    exact h.lt_of_nextRowId? hid a ha

end Numbered

end Table

/-! ### Stores -/

namespace Store

theorem numbered_dogs_initial : initial.dogs.Numbered where
  isSome_rowId? := by decide
  ascending := by decide

theorem numbered_dogs_empty : empty.dogs.Numbered where
  isSome_rowId? _ hrow := absurd hrow List.not_mem_nil
  ascending := List.Pairwise.nil

/-- A row that is stored keeps the dogs numbered. -/
theorem numbered_insertRow {s s' : Store} {t : TableName} {values : List String}
    {id : Option RowId} (h : s.dogs.Numbered) (hstored : s.insertRow t values = .ok (s', id)) :
    s'.dogs.Numbered := by
  obtain ⟨-, -, hid, rfl⟩ := insertRow_eq_ok_iff.1 hstored
  cases t with
  | owners => exact h
  | dogs =>
    obtain ⟨next, hnext, rfl⟩ := assignId_dogs_eq_ok_iff.1 hid
    exact h.push hnext values

end Store

namespace Engine

variable (e : Engine)

/-- Submissions keep the dogs numbered. -/
theorem numbered_submitAll {st : State} (h : st.store.dogs.Numbered) (submissions : List String) :
    (e.submitAll st submissions).store.dogs.Numbered :=
  e.submitAll_induction (P := fun s => s.dogs.Numbered)
    (fun _ _ _ _ _ _ hs hstored => Store.numbered_insertRow hs hstored) h

end Engine

end DogRegistry
