import DogRegistry.Proofs.Text.Split
import DogRegistry.Proofs.Text.Trim
import DogRegistry.Statement.Insert

/-!
# The statements of a submission

Two submissions joined with a semicolon have the statements of the first one and then those of the
second one, wherever the semicolon comes to stand: it ends a statement even inside quotes.

## Main results

* `statements_append` — the statements of two submissions joined with a semicolon.
* `statements_intercalate` — the same for any number of submissions, with a space after every
  semicolon.
* `statements_eq_singleton` — a trimmed text without a semicolon is one statement.
-/

namespace DogRegistry

open Text

/-- Submissions joined with a semicolon have the statements of both. -/
theorem statements_append (a b : String) :
    statements (a ++ ";" ++ b) = statements a ++ statements b := by
  have hcut : splitAtChar ';' (a ++ ";" ++ b) = splitAtChar ';' a ++ splitAtChar ';' b :=
    splitAtChar_append ';' a b
  rw [statements, hcut, List.map_append, List.filter_append]
  rfl

/-- A space in front of a submission belongs to no statement. -/
theorem statements_space_append (a : String) : statements (" " ++ a) = statements a := by
  have hcut : splitAtChar ';' (" " ++ a) = (splitAtChar ';' a).modifyHead (" " ++ ·) := by
    rw [splitAtChar, String.toList_append]
    show ((' ' :: a.toList).splitOn ';').map String.ofList = _
    rw [List.splitOn_cons_eq_if_modifyHead, if_neg (by decide), splitAtChar]
    cases a.toList.splitOn ';' with
    | nil => rfl
    | cons piece pieces => simp
  have htrim (piece : String) : trim (" " ++ piece) = trim piece := by
    rw [trim, String.toList_append]
    rfl
  rw [statements, hcut, statements]
  cases splitAtChar ';' a with
  | nil => rfl
  | cons piece pieces => rw [List.modifyHead_cons, List.map_cons, List.map_cons, htrim]

/-- Submissions joined with semicolons have the statements of all of them. -/
theorem statements_intercalate (submissions : List String) :
    statements ("; ".intercalate submissions) = submissions.flatMap statements := by
  induction submissions with
  | nil => rfl
  | cons first submissions ih =>
    cases submissions with
    | nil => rw [String.intercalate_singleton, List.flatMap_singleton]
    | cons second submissions =>
      have hjoin : "; ".intercalate (first :: second :: submissions) =
          first ++ ";" ++ (" " ++ "; ".intercalate (second :: submissions)) := by
        have hspaced : "; " = ";" ++ " " := rfl
        rw [String.intercalate_cons_cons, hspaced]
        simp only [String.append_assoc]
      rw [hjoin, statements_append, statements_space_append, ih]
      rfl

/-- A trimmed text without a semicolon is one statement, unless it is empty. -/
theorem statements_eq_singleton {s : String} (hseparator : ';' ∉ s.toList) (htrim : trim s = s)
    (hne : s ≠ "") : statements s = [s] := by
  have hnonempty : s.isEmpty = false := by
    rw [Bool.eq_false_iff, ne_eq, String.isEmpty_iff]
    exact hne
  rw [statements, splitAtChar_of_not_mem hseparator, List.map_singleton, htrim,
    List.filter_singleton, hnonempty]
  rfl

end DogRegistry
