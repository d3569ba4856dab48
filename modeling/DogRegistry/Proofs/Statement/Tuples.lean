import DogRegistry.Proofs.Text.Split
import DogRegistry.Proofs.Text.Trim
import DogRegistry.Statement.Insert

/-!
# The values of a statement

A value is cut out of the text of a statement between two commas, so no comma can stand in it, in
whatever quotes it is written.

## Main results

* `cleanValue_sublist` — a value keeps the order of the characters that it is written with.
* `groupValues_intercalate` — what is written between commas is read piece by piece.
* `comma_not_mem_of_mem_tuplesOfChars` — no value of a text holds a comma.
* `InsertStatement.comma_not_mem_of_parse` — nor does a value of a statement.
-/

namespace DogRegistry

open Text

theorem unquote_sublist (cs : List Char) : (unquote cs).Sublist cs := by
  cases cs with
  | nil => exact List.Sublist.refl []
  | cons q cs =>
    rw [unquote]
    split
    · exact (List.dropLast_sublist cs).trans (List.sublist_cons_self q cs)
    · exact List.Sublist.refl (q :: cs)

/-- A value keeps the order of the characters that it is written with. -/
theorem cleanValue_sublist (raw : List Char) : (cleanValue raw).Sublist raw :=
  (unquote_sublist (trimChars raw)).trans (trimChars_sublist raw)

/-- What is written between commas is read piece by piece. -/
theorem groupValues_intercalate {pieces : List String} (hne : pieces ≠ [])
    (h : ∀ piece ∈ pieces, ',' ∉ piece.toList) :
    groupValues (",".intercalate pieces).toList = pieces.map parseValue := by
  have hcut : splitAtChar ',' (",".intercalate pieces) = pieces := splitAtChar_intercalate h hne
  have hvalues : groupValues (",".intercalate pieces).toList =
      (splitAtChar ',' (",".intercalate pieces)).map parseValue := by
    rw [groupValues, splitAtChar, List.map_map]
    refine List.map_congr_left fun raw _ => ?_
    rw [Function.comp_apply, parseValue, String.toList_ofList]
  rw [hvalues, hcut]

/-- No value of a group holds a comma. -/
theorem comma_not_mem_of_mem_groupValues {content : List Char} {value : String}
    (h : value ∈ groupValues content) : ',' ∉ value.toList := by
  obtain ⟨raw, hraw, rfl⟩ := List.mem_map.1 h
  rw [String.toList_ofList]
  intro hcomma
  exact not_mem_of_mem_splitOn hraw ((cleanValue_sublist raw).subset hcomma)

/-- No value of a text holds a comma. -/
theorem comma_not_mem_of_mem_tuplesOfChars {cs : List Char} {values : List String}
    (h : values ∈ tuplesOfChars cs) : ∀ value ∈ values, ',' ∉ value.toList := by
  obtain ⟨content, -, rfl⟩ := List.mem_map.1 h
  intro value hvalue
  exact comma_not_mem_of_mem_groupValues hvalue

namespace InsertStatement

/-- What is read names the table of its header, and has the tuples of the text behind it. -/
theorem exists_header_of_parse {text : String} {s : InsertStatement} (h : parse text = .ok s) :
    ∃ rest, header? (trimChars text.toList) = some (s.table, rest) ∧
      s.tuples = tuplesOfChars rest ∧ s.tuples ≠ [] := by
  rw [parse, parseChars] at h
  split at h
  next => exact absurd h (by simp)
  next =>
    split at h
    next => exact absurd h (by simp)
    next table rest hheader =>
      split at h
      next => exact absurd h (by simp)
      next hne =>
        obtain rfl := Except.ok.inj h
        exact ⟨rest, hheader, rfl, hne⟩

/-- No value of a statement holds a comma. -/
theorem comma_not_mem_of_parse {text : String} {s : InsertStatement} (h : parse text = .ok s) :
    ∀ values ∈ s.tuples, ∀ value ∈ values, ',' ∉ value.toList := by
  obtain ⟨rest, -, htuples, -⟩ := exists_header_of_parse h
  intro values hvalues
  rw [htuples] at hvalues
  exact comma_not_mem_of_mem_tuplesOfChars hvalues

end InsertStatement

end DogRegistry
