import DogRegistry.Proofs.Catalog
import DogRegistry.Proofs.Engine.Submission
import DogRegistry.Proofs.Statement.Separator
import DogRegistry.Proofs.Statement.Written

/-!
# Submissions in parts

A submission may be cut at any of its semicolons and executed in two parts, as long as the second
part starts with what the first one leaves behind.  A statement may be cut between its tuples in the
same way: it does what as many statements with one tuple each do.

## Main definitions

* `Execution.andThen` — what two submissions change together.

## Main results

* `Engine.execute_of_attempts_append` — attempts that are submitted in two parts change what they
  change in one.
* `Engine.execute_append` — two submissions joined with a semicolon.
* `Engine.submit_intercalate` — any number of submissions joined with semicolons.
* `statements_written`, `Attempt.ofStatement_written` — a statement that is written is one
  statement, and it is attempted tuple by tuple.
* `Engine.execute_written` — a statement does what statements with one tuple each do.
-/

namespace DogRegistry

open Text

/-! ### Two submissions -/

/-- What two submissions change, the second one after the first. -/
def Execution.andThen (x y : Execution) : Execution :=
  ⟨x.records ++ y.records, y.store <|> x.store, y.index <|> x.index⟩

/-- To take over what two submissions return is to do so one after the other. -/
theorem State.adopt_andThen (st : State) (x y : Execution) :
    st.adopt (x.andThen y) = (st.adopt x).adopt y := by
  simp only [adopt, Execution.andThen, Option.orElse_eq_orElse, Option.orElse_eq_or, Option.getD_or]

theorem attempts_append (a b : String) : attempts (a ++ ";" ++ b) = attempts a ++ attempts b := by
  rw [attempts, statements_append, List.flatMap_append]
  rfl

theorem attempts_intercalate (submissions : List String) :
    attempts ("; ".intercalate submissions) = submissions.flatMap attempts := by
  rw [attempts, statements_intercalate, List.flatMap_assoc]
  rfl

namespace Engine

variable (e : Engine)

theorem execute_of_success {s : Store} {index : Tree} {submission : String}
    (h : (e.run s (attempts submission)).records.any Record.success) :
    e.execute s index submission =
      ⟨(e.run s (attempts submission)).records, some (e.run s (attempts submission)).store,
        some ((e.run s (attempts submission)).index.getD index)⟩ := by
  rw [execute_eq, if_pos h]

theorem execute_of_failure {s : Store} {index : Tree} {submission : String}
    (h : ¬ (e.run s (attempts submission)).records.any Record.success) :
    e.execute s index submission = ⟨(e.run s (attempts submission)).records, none, none⟩ := by
  rw [execute_eq, if_neg h]

/-- Attempts that are submitted in two parts change what they change in one, if the second part
starts with what the first one leaves behind. -/
theorem execute_of_attempts_append {a b whole : String}
    (h : attempts whole = attempts a ++ attempts b) (st : State) :
    e.execute st.store st.index whole = (e.execute st.store st.index a).andThen
      (e.execute (e.submit st a).store (e.submit st a).index b) := by
  have hrun := e.run_append st.store (attempts a) (attempts b)
  rw [← h] at hrun
  have hsubmit := e.submit_eq st a
  have hany : (e.run st.store (attempts whole)).records.any Record.success =
      ((e.run st.store (attempts a)).records.any Record.success ||
        (e.run (e.submit st a).store (attempts b)).records.any Record.success) := by
    rw [hrun, Progress.records_andThen, List.any_append, hsubmit]
  by_cases hb : (e.run (e.submit st a).store (attempts b)).records.any Record.success
  · have hwhole : (e.run st.store (attempts whole)).records.any Record.success := by
      rw [hany, hb, Bool.or_true]
    -- whatever the first part returns, the second part replaces
    rw [e.execute_of_success hwhole, e.execute_of_success hb, hrun, hsubmit,
      Progress.index_andThen, Option.getD_or, Execution.andThen, e.records_execute]
    rfl
  · -- the second part returns nothing, and nothing has changed
    obtain ⟨hstore, hindex⟩ := e.run_of_forall_failure (e.submit st a).store (attempts b)
      fun r hr => Bool.eq_false_iff.2 fun hsuccess => hb (List.any_eq_true.2 ⟨r, hr, hsuccess⟩)
    rw [hsubmit] at hstore hindex
    rw [Bool.not_eq_true] at hb
    rw [hb, Bool.or_false] at hany
    rw [e.execute_of_failure (Bool.eq_false_iff.1 hb), Execution.andThen, e.records_execute,
      hsubmit]
    by_cases ha : (e.run st.store (attempts a)).records.any Record.success
    · rw [e.execute_of_success (hany.trans ha), e.execute_of_success ha, hrun,
        Progress.store_andThen, Progress.index_andThen, hstore, hindex]
      rfl
    · rw [e.execute_of_failure (hany ▸ ha), e.execute_of_failure ha, hrun]
      rfl

/-- Two submissions joined with a semicolon have the statements of both, and they change what the
second one changes after the first: the records are those of both, and the store and the index are
those of the second submission, if it returns any, and else those of the first. -/
theorem execute_append (s : Store) (index : Tree) (a b : String) :
    statements (a ++ ";" ++ b) = statements a ++ statements b ∧
      e.execute s index (a ++ ";" ++ b) = (e.execute s index a).andThen
        (e.execute (e.submit ⟨s, index⟩ a).store (e.submit ⟨s, index⟩ a).index b) :=
  ⟨statements_append a b, e.execute_of_attempts_append (attempts_append a b) ⟨s, index⟩⟩

/-- Submissions that are joined with semicolons leave behind what they leave behind one after the
other. -/
theorem submit_intercalate (st : State) (submissions : List String) :
    e.submit st ("; ".intercalate submissions) = e.submitAll st submissions := by
  induction submissions generalizing st with
  | nil => rfl
  | cons first submissions ih =>
    have hattempts : attempts ("; ".intercalate (first :: submissions)) =
        attempts first ++ attempts ("; ".intercalate submissions) := by
      rw [attempts_intercalate, attempts_intercalate, List.flatMap_cons]
    calc e.submit st ("; ".intercalate (first :: submissions))
        = e.submit (e.submit st first) ("; ".intercalate submissions) := by
          rw [submit, e.execute_of_attempts_append hattempts, State.adopt_andThen]
          rfl
      _ = e.submitAll st (first :: submissions) := ih (e.submit st first)

end Engine

/-! ### Tuples and statements -/

section Tuples

open InsertStatement

variable {name : String} {t : TableName} {bodies : List String}

/-- A statement that is written for a table is one statement. -/
theorem statements_written (ht : TableName.resolve? name = some t) (hne : bodies ≠ [])
    (h : ∀ body ∈ bodies, ';' ∉ body.toList) :
    statements (written name bodies) = [written name bodies] := by
  obtain ⟨-, hword⟩ := TableName.isWord_of_resolve? ht
  rw [written_eq]
  exact statements_writtenWith (by decide) hword hne h

/-- A statement is attempted tuple by tuple. -/
theorem Attempt.ofStatement_written (ht : TableName.resolve? name = some t) (hne : bodies ≠ [])
    (h : ∀ body ∈ bodies, body ≠ "" ∧ ')' ∉ body.toList) :
    ofStatement (written name bodies) =
      bodies.map fun body => .insert t (groupValues body.toList) := by
  obtain ⟨hname, hword⟩ := TableName.isWord_of_resolve? ht
  have hparse : parse (written name bodies) =
      .ok ⟨name, bodies.map fun body => groupValues body.toList⟩ :=
    parse_writtenWith_of_ne (by decide) hname hword hne h
  rw [ofStatement_of_some hparse ht, List.map_map]
  rfl

/-- So it asks for what statements with one tuple each ask for. -/
theorem flatMap_ofStatement_written (ht : TableName.resolve? name = some t) (hne : bodies ≠ [])
    (h : ∀ body ∈ bodies, body ≠ "" ∧ ')' ∉ body.toList) :
    (bodies.map fun body => written name [body]).flatMap Attempt.ofStatement =
      Attempt.ofStatement (written name bodies) := by
  rw [Attempt.ofStatement_written ht hne h, List.flatMap_map, List.map_eq_flatMap]
  refine List.flatMap_congr fun body hbody => ?_
  exact Attempt.ofStatement_written ht (List.cons_ne_nil _ _)
    (List.forall_mem_singleton.2 (h body hbody))

/-- A statement that lists tuples for a table is one statement, and it leaves behind what as many
statements with one tuple each leave behind, one after the other.  As submissions they return the
same records, the same store and the same index. -/
theorem Engine.execute_written (e : Engine) (s : Store) (index : Tree)
    (ht : TableName.resolve? name = some t) (hne : bodies ≠ [])
    (h : ∀ body ∈ bodies, body ≠ "" ∧ ')' ∉ body.toList ∧ ';' ∉ body.toList) :
    statements (written name bodies) = [written name bodies] ∧
      statements ("; ".intercalate (bodies.map fun body => written name [body])) =
        bodies.map (fun body => written name [body]) ∧
      attempts (written name bodies) =
        bodies.map (fun body => .insert t (groupValues body.toList)) ∧
      e.executeStatement s (written name bodies) =
        (bodies.map fun body => written name [body]).foldl e.executeNext { store := s } ∧
      e.execute s index (written name bodies) =
        e.execute s index ("; ".intercalate (bodies.map fun body => written name [body])) := by
  have hbodies : ∀ body ∈ bodies, body ≠ "" ∧ ')' ∉ body.toList :=
    fun body hbody => ⟨(h body hbody).1, (h body hbody).2.1⟩
  have hwhole : statements (written name bodies) = [written name bodies] :=
    statements_written ht hne fun body hbody => (h body hbody).2.2
  have hparts : statements ("; ".intercalate (bodies.map fun body => written name [body])) =
      bodies.map fun body => written name [body] := by
    rw [statements_intercalate, List.flatMap_map, List.map_eq_flatMap]
    refine List.flatMap_congr fun body hbody => ?_
    exact statements_written ht (List.cons_ne_nil _ _)
      (List.forall_mem_singleton.2 (h body hbody).2.2)
  have hattempts : attempts (written name bodies) = Attempt.ofStatement (written name bodies) := by
    rw [attempts, hwhole, List.flatMap_singleton]
  have hsingles := flatMap_ofStatement_written ht hne hbodies
  refine ⟨hwhole, hparts, ?_, ?_, ?_⟩
  · rw [hattempts, Attempt.ofStatement_written ht hne hbodies]
  · -- the tuples in one statement see what statements in front of a statement leave behind
    rw [executeStatement_eq_run, foldl_executeNext, hsingles, Progress.nothing_andThen]
  · rw [execute_eq, execute_eq, hattempts, attempts, hparts, hsingles]

/-- The second of these tuples repeats the first one, and the third is too short: both are rejected
in the one statement as they are in three. -/
theorem Engine.execute_written_perros :
    let bodies := ["'Boxer', 'Rex (II', '1'", "boxer,\nREX (ii, 1", "'Poodle'"]
    let index := Engine.default.rebuildIndex .initial
    TableName.resolve? "PERROS" = some .dogs ∧
      (∀ body ∈ bodies, body ≠ "" ∧ ')' ∉ body.toList ∧ ';' ∉ body.toList) ∧
      (statements ("; ".intercalate (bodies.map fun body => written "PERROS" [body]))).length = 3 ∧
      Engine.default.execute .initial index (written "PERROS" bodies) =
        Engine.default.execute .initial index
          ("; ".intercalate (bodies.map fun body => written "PERROS" [body])) ∧
      (Engine.default.execute .initial index (written "PERROS" bodies)).records.map Record.success =
        [true, false, false] := by
  intro bodies index
  have ht : TableName.resolve? "PERROS" = some .dogs := by decide +kernel
  have hbodies : ∀ body ∈ bodies, body ≠ "" ∧ ')' ∉ body.toList ∧ ';' ∉ body.toList := by decide
  obtain ⟨-, hstatements, hattempts, -, hexecute⟩ :=
    Engine.execute_written .default .initial index ht (List.cons_ne_nil _ _) hbodies
  refine ⟨ht, hbodies, congrArg List.length hstatements, hexecute, ?_⟩
  rw [records_execute, hattempts]
  decide +kernel

end Tuples

end DogRegistry
