import DogRegistry.Catalog
import DogRegistry.Proofs.Text.Word

/-!
# The names of the tables

A table goes by several names, each in any case, and no name belongs to both tables.  All of them
are words, so a table can be named in a statement.

## Main definitions

* `TableName.names` — the names of a table in lower case.
* `TableName.IsNamed t name` — the table goes by the name.

## Main results

* `TableName.resolve?_eq_some_iff` — a name is resolved as the table that goes by it.
* `TableName.isWord_of_resolve?` — all names of the tables are words.
-/

namespace DogRegistry.TableName

open Text

/-- The names a table goes by, in lower case. -/
def names : TableName → List String
  | owners => ["owners", "duenos", "dueños"]
  | dogs => ["dogs", "perros"]

/-- `t.IsNamed name` says `t` goes by this name, in any case. -/
def IsNamed (t : TableName) (name : String) : Prop :=
  lowerCase name ∈ t.names

instance (t : TableName) (name : String) : Decidable (t.IsNamed name) :=
  inferInstanceAs (Decidable (lowerCase name ∈ t.names))

variable {t u : TableName} {name : String}

/-- A name is resolved as the table that goes by it. -/
theorem resolve?_eq_some_iff : resolve? name = some t ↔ t.IsNamed name := by
  unfold resolve? IsNamed
  split
  all_goals cases t <;> simp_all [names]

theorem resolve?_eq_none_iff : resolve? name = none ↔ ∀ t : TableName, ¬ t.IsNamed name := by
  simp only [Option.eq_none_iff_forall_ne_some, ne_eq, resolve?_eq_some_iff]

/-- A name belongs to one table only. -/
theorem IsNamed.eq (ht : t.IsNamed name) (hu : u.IsNamed name) : t = u :=
  Option.some.inj ((resolve?_eq_some_iff.2 ht).symm.trans (resolve?_eq_some_iff.2 hu))

theorem isNamed_label_iff : t.IsNamed u.label ↔ u = t := by
  rw [← resolve?_eq_some_iff, resolve?_label, Option.some_inj]

/-- All names of the tables are words. -/
theorem isWord_of_resolve? (h : resolve? name = some t) :
    name ≠ "" ∧ ∀ c ∈ name.toList, isWordChar c := by
  have hword : ∀ known ∈ t.names, known ≠ "" ∧ known.toList.all isWordChar := by
    cases t <;> decide +kernel
  obtain ⟨hne, hchars⟩ := hword _ (resolve?_eq_some_iff.1 h)
  refine ⟨?_, ?_⟩
  · rintro rfl
    exact hne rfl
  · rw [lowerCase, String.toList_ofList] at hchars
    exact isWordChar_of_lowerCaseFrom (List.all_eq_true.1 hchars)

end DogRegistry.TableName
