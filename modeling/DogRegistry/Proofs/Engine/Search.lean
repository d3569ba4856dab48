import DogRegistry.Engine.Search
import DogRegistry.Proofs.Engine.Numbering
import DogRegistry.Proofs.Index.Contents
import Mathlib.Data.List.Pairwise

/-!
# What a search finds

The index is built from the rows, the term is looked up in it, and the identifiers that are found
select rows again.  All of this answers like a scan of the table that compares the breed of every
row with the term, as long as no two rows share an identifier.

## Main definitions

* `entryOf? row` — what the index holds for a row.
* `breedMatches term row` — the row counts, and its breed is the term.

## Main results

* `Engine.rebuildIndex_eq` — the index of a store holds the entries of the rows.
* `Engine.rowIds_search` — a search finds the identifiers of the rows that match.
* `Engine.search_rebuildIndex` — and, if no identifier occurs twice, these rows.
-/

namespace DogRegistry

open Text

/-! ### Rows that match -/

/-- What the index holds for a row, if anything. -/
def entryOf? (row : List String) : Option (String × RowId) :=
  (leadingCells? row).bind fun cells => indexEntry? cells.1 cells.2

/-- `breedMatches term row` says `row` has an identifier and a breed that is not blank, and the
breed is `term`.  Blanks around either do not count. -/
def breedMatches (term : String) : List String → Bool
  | id :: breed :: _ =>
    (RowId.parse? id).isSome && trim breed != "" && trim breed == trim term
  | _ => false

variable {term : String} {row : List String}

/-- A row that matches has an identifier. -/
theorem isSome_rowId?_of_breedMatches (h : breedMatches term row) : (rowId? row).isSome := by
  match row, h with
  | id :: breed :: cells, h =>
    rw [breedMatches, Bool.and_eq_true, Bool.and_eq_true] at h
    exact h.1.1

/-- No row matches a term of blanks. -/
theorem breedMatches_eq_false_of_isBlankText (h : isBlankText term) (row : List String) :
    breedMatches term row = false := by
  have hterm : trim term = "" := (trim_eq_empty_iff term).2 h
  match row with
  | [] => rfl
  | [_] => rfl
  | id :: breed :: cells =>
    rw [breedMatches, hterm]
    by_cases hbreed : trim breed = ""
    · simp [hbreed]
    · simp [hbreed]

/-- The entry of a row is kept under a term if and only if the row matches it. -/
theorem map_filter_entryOf? (term : String) (row : List String) :
    ((entryOf? row).filter fun e => e.1 == trim term).map Prod.snd =
      if breedMatches term row then rowId? row else none := by
  match row with
  | [] => rfl
  | [_] => rfl
  | id :: breed :: cells =>
    rw [entryOf?, leadingCells?, Option.bind_some, indexEntry?, breedMatches, rowId?,
      List.head?_cons, Option.bind_some]
    by_cases hblank : isBlankText breed
    · have hempty : trim breed = "" := (trim_eq_empty_iff breed).2 hblank
      simp [hblank, hempty]
    · have hne : trim breed ≠ "" := fun h => hblank ((trim_eq_empty_iff breed).1 h)
      rw [if_neg hblank]
      cases RowId.parse? id with
      | none => simp
      | some id' =>
        by_cases hterm : trim breed = trim term
        · have hne' : trim term ≠ "" := hterm ▸ hne
          simp [Option.filter, hterm, hne']
        · simp [Option.filter, hterm]

/-- Under a term the entries of some rows hold the identifiers of the rows that match. -/
theorem idsUnder_entriesOf (rows : List (List String)) (term : String) :
    idsUnder (rows.filterMap entryOf?) (trim term) =
      (rows.filter (breedMatches term)).filterMap rowId? := by
  rw [idsUnder, List.filter_filterMap, List.map_filterMap, List.filterMap_filter]
  exact List.filterMap_congr fun row _ => map_filter_entryOf? term row

/-! ### Rows with an identifier -/

/-- Every row that matches has one identifier. -/
theorem map_rowId?_filter (rows : List (List String)) (term : String) :
    (rows.filter (breedMatches term)).map rowId? =
      ((rows.filter (breedMatches term)).filterMap rowId?).map some := by
  rw [List.map_filterMap_some_eq_filter_map_isSome]
  refine (List.filter_eq_self.2 fun id hid => ?_).symm
  obtain ⟨row, hrow, rfl⟩ := List.mem_map.1 hid
  exact isSome_rowId?_of_breedMatches (List.mem_filter.1 hrow).2

/-- Where no identifier occurs twice, rows with the same identifier are the same. -/
theorem eq_of_rowId?_eq {rows : List (List String)} (hids : (rows.filterMap rowId?).Nodup)
    {a b : List String} (ha : a ∈ rows) (hb : b ∈ rows) {id : RowId} (hida : rowId? a = some id)
    (hidb : rowId? b = some id) : a = b := by
  by_contra hne
  have hsymm : Std.Symm fun a b : List String =>
      ∀ i, rowId? a = some i → ∀ j, rowId? b = some j → i ≠ j :=
    ⟨fun _ _ hab j hj i hi => (hab i hi j hj).symm⟩
  exact (List.pairwise_filterMap.1 hids).forall ha hb hne id hida id hidb rfl

theorem hasId_eq (ids : List RowId) (row : List String) :
    hasId ids row = (rowId? row).any fun id => ids.contains id := by
  unfold hasId rowId?
  cases row.head?.bind RowId.parse? with
  | none => rfl
  | some id => rfl

/-- So the identifiers of the rows that match select these rows again. -/
theorem filter_hasId {rows : List (List String)} (hids : (rows.filterMap rowId?).Nodup)
    (term : String) :
    rows.filter (hasId ((rows.filter (breedMatches term)).filterMap rowId?)) =
      rows.filter (breedMatches term) := by
  refine List.filter_congr ?_
  intro row hrow
  rw [hasId_eq]
  cases hid : rowId? row with
  | none =>
    refine (Bool.eq_false_iff.2 ?_).symm
    intro hmatch
    have hsome := isSome_rowId?_of_breedMatches hmatch
    rw [hid] at hsome
    exact absurd hsome Bool.false_ne_true
  | some id =>
    rw [Option.any_some, Bool.eq_iff_iff, List.contains_iff_mem, List.mem_filterMap]
    constructor
    · -- a row with the identifier of a row that matches is that row
      rintro ⟨other, hother, hother'⟩
      obtain ⟨hmem, hmatch⟩ := List.mem_filter.1 hother
      rwa [← eq_of_rowId?_eq hids hmem hrow hother' hid]
    · intro hmatch
      exact ⟨row, List.mem_filter.2 ⟨hrow, hmatch⟩, hid⟩

/-! ### Searches -/

namespace Engine

variable (e : Engine)

/-- The index of a store holds the entries of the dogs. -/
theorem rebuildIndex_eq (s : Store) :
    e.rebuildIndex s = Tree.ofEntries e.config (s.dogs.rows.filterMap entryOf?) := by
  show Tree.ofCells e.config _ = _
  rw [Tree.ofCells, List.filterMap_filterMap]
  congr 1
  refine List.filterMap_congr ?_
  intro row _
  match row with
  | [] => rfl
  | [_] => rfl
  | id :: breed :: cells => rfl

/-- A search finds the identifiers of the dogs that match. -/
theorem rowIds_search (s : Store) (term : String) :
    (search term (e.rebuildIndex s) s).rowIds =
      (s.dogs.rows.filter (breedMatches term)).filterMap rowId? := by
  show ((e.rebuildIndex s).search (trim term)).rowIds = _
  rw [rebuildIndex_eq, Tree.rowIds_search_ofEntries e.valid, idsUnder_entriesOf]

/-- And it answers with the rows that have these identifiers, cell by cell below the names of the
columns. -/
theorem rows_search (s : Store) (term : String) :
    (search term (e.rebuildIndex s) s).rows =
      (s.dogs.rows.filter
        (hasId ((s.dogs.rows.filter (breedMatches term)).filterMap rowId?))).map fun row =>
          ⟨s.dogs.header.mapIdx fun i column => (trim column, (row[i]?.map trim).getD "")⟩ := by
  rw [← e.rowIds_search s term]
  exact List.map_congr_left fun row _ => LabeledRow.ofRow_eq s.dogs.header row

/-- In a store in which no two dogs share an identifier, a search answers with the dogs that match
and with their identifiers, both in the order of the table, and so with nothing for a term of
blanks.  A dog is shown as pairs of the name of a column and the cell in that column, both trimmed,
with the empty text for a cell that is missing.  Every store that submissions make of the first
store or of the empty one is of that kind. -/
theorem search_rebuildIndex {s : Store} (hids : (s.dogs.rows.filterMap rowId?).Nodup)
    (term : String) :
    (search term (e.rebuildIndex s) s).rows =
        ((s.dogs.rows.filter (breedMatches term)).map fun row =>
          ⟨s.dogs.header.mapIdx fun i column => (trim column, (row[i]?.map trim).getD "")⟩) ∧
      (s.dogs.rows.filter (breedMatches term)).map rowId? =
        (search term (e.rebuildIndex s) s).rowIds.map some ∧
      (isBlankText term → (search term (e.rebuildIndex s) s).rows = [] ∧
        (search term (e.rebuildIndex s) s).rowIds = []) ∧
      ∀ s₀ ∈ [Store.initial, Store.empty], ∀ submissions : List String,
        ((e.submitAll (e.start s₀) submissions).store.dogs.rows.filterMap rowId?).Nodup := by
  have hrows : (search term (e.rebuildIndex s) s).rows =
      (s.dogs.rows.filter (breedMatches term)).map fun row =>
        ⟨s.dogs.header.mapIdx fun i column => (trim column, (row[i]?.map trim).getD "")⟩ := by
    rw [rows_search, filter_hasId hids]
  refine ⟨hrows, ?_, fun hblank => ?_, fun s₀ hs₀ submissions => ?_⟩
  · rw [rowIds_search, map_rowId?_filter]
  · have hnone : s.dogs.rows.filter (breedMatches term) = [] := List.filter_eq_nil_iff.2
      fun row _ => Bool.eq_false_iff.1 (breedMatches_eq_false_of_isBlankText hblank row)
    rw [hrows, rowIds_search, hnone]
    exact ⟨rfl, rfl⟩
  · have hs₀ : s₀.dogs.Numbered := by
      rcases List.mem_pair.1 hs₀ with rfl | rfl
      · exact Store.numbered_dogs_initial
      · exact Store.numbered_dogs_empty
    have hstart : (e.start s₀).store.dogs.Numbered := hs₀
    exact (e.numbered_submitAll hstart submissions).nodup

/-- A store with rows that do not count among its dogs. -/
def unevenStore : Store where
  owners := Store.initial.owners
  dogs :=
    { header := ["dog_id", "breed ", "dog_name", "owner_id"]
      rows := [["101", " Labrador "], ["x", "Labrador"], ["102"], ["103", " "], [],
        [" 7 ", "Labrador", "Buddy", "1"], ["104", "Beagle"]] }

theorem search_rebuildIndex_unevenStore :
    (unevenStore.dogs.rows.filterMap rowId?).Nodup ∧
      (search "Labrador " (default.rebuildIndex unevenStore) unevenStore).rows =
        [⟨[("dog_id", "101"), ("breed", "Labrador"), ("dog_name", ""), ("owner_id", "")]⟩,
          ⟨[("dog_id", "7"), ("breed", "Labrador"), ("dog_name", "Buddy"), ("owner_id", "1")]⟩] ∧
      (search "Labrador " (default.rebuildIndex unevenStore) unevenStore).rowIds.map some =
        [some ⟨101, by decide⟩, some ⟨7, by decide⟩] := by
  have hids : (unevenStore.dogs.rows.filterMap rowId?).Nodup := by decide
  obtain ⟨hrows, hrowIds, -⟩ := search_rebuildIndex default hids "Labrador "
  refine ⟨hids, hrows.trans ?_, hrowIds.symm.trans ?_⟩
  · decide
  · decide

end Engine

end DogRegistry
