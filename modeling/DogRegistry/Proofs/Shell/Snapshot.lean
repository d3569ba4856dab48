import DogRegistry.Proofs.Files.Directory
import DogRegistry.Proofs.Json.StringMap
import DogRegistry.Proofs.Store
import DogRegistry.Shell.Session

/-!
# Saving and loading

A snapshot is the text of every table inside a JSON object.  The JSON strings keep every character,
so a store is lost only where the text form of one of its tables is.  Nothing else is relied on of
the JSON form: any form that gives back what was written would do.

## Main definitions

* `StringMapFormat` — a written form of maps from names to texts.
* `Json.stringMapFormat` — objects of strings are such a form.

## Main results

* `StringMapFormat.load_write_eq_some_iff` — in any such form, the texts of a store with canonical
  tables are read as this store, and no others are.
* `Snapshot.parse?_toText_iff` — the snapshots of stores with canonical tables are read as these
  stores, and no others are.
* `Snapshot.exists_writeFile_of_save` — a snapshot that was saved was written.
* `Snapshot.perform_load_of_readFile` — what is loaded is what the file is read as.
* `Snapshot.load_save` — a canonical store that was saved can be loaded, and saved again.
-/

namespace DogRegistry

open Text

/-! ### Maps of texts -/

/-- A written form of maps from names to texts. -/
structure StringMapFormat where
  /-- The written form of a map. -/
  write : List (String × String) → String
  /-- Its reader. -/
  read? : String → Option (List (String × String))
  /-- What was written is read back, if the names ascend. -/
  read?_write : ∀ ms, (ms.map Prod.fst).Pairwise (· < ·) → read? (write ms) = some ms

namespace StringMapFormat

/-- The texts of a store are read back in any form, and loaded like the texts themselves. -/
theorem load_write (format : StringMapFormat) (s : Store) :
    (format.read? (format.write s.texts)).bind (fun tables => (Store.load tables).toOption) =
      (Store.load s.texts).toOption := by
  have hascending : (s.texts.map Prod.fst).Pairwise (· < ·) := by
    show ["dogs", "owners"].Pairwise (· < ·)
    decide
  rw [format.read?_write s.texts hascending, Option.bind_some]

/-- They are loaded as the store if and only if its tables are canonical. -/
theorem load_write_eq_some_iff (format : StringMapFormat) (s : Store) :
    (format.read? (format.write s.texts)).bind (fun tables => (Store.load tables).toOption) =
      some s ↔ ∀ t, (s.table t).Canonical := by
  have hload : (Store.load s.texts).toOption = some s ↔ Store.load s.texts = .ok s := by
    cases Store.load s.texts <;> simp [Except.toOption]
  rw [load_write, hload, Store.load_texts_eq_ok_iff]
  exact forall_congr' fun t => Table.parse_toText_iff

end StringMapFormat

/-- Objects of strings in their indented form. -/
def Json.stringMapFormat : StringMapFormat where
  write ms := (Json.obj (ms.map fun m => (m.1, .str m.2))).pretty
  read? := Json.parseStringMap
  read?_write ms h := by
    exact Json.parseStringMap_pretty h

namespace Snapshot

variable {s : Store} {path : String}

/-! ### Texts -/

/-- The snapshot of a store is read as the store if and only if its tables are canonical. -/
theorem parse?_toText_iff : parse? (toText s) = some s ↔ ∀ t, (s.table t).Canonical :=
  Json.stringMapFormat.load_write_eq_some_iff s

/-! ### Files -/

section Files

open FileSystem

variable {σ : Type} [FileSystem σ] {files files' : σ}

theorem perform_write (path : String) (s : Store) (files : σ) :
    perform (write path s) files =
      ((writeFile files path (toText s)).1.mapError (.unwritableSnapshot path),
        (writeFile files path (toText s)).2) := by
  rw [write, perform_bind, perform_writeFile]
  cases (writeFile files path (toText s)).1 with
  | error e => rfl
  | ok a => rfl

/-- A snapshot that was saved was written. -/
theorem exists_writeFile_of_save (h : perform (save path s) files = (.ok (), files')) :
    ∃ files₀, writeFile files₀ path (toText s) = (.ok (), files') := by
  have hwrite : ∀ files₀ : σ, perform (write path s) files₀ = (.ok (), files') →
      writeFile files₀ path (toText s) = (.ok (), files') := by
    intro files₀ h
    rw [perform_write] at h
    obtain ⟨hresult, hfiles⟩ := Prod.mk.inj h
    refine Prod.ext ?_ hfiles
    cases hok : (writeFile files₀ path (toText s)).1 with
    | error e => rw [hok] at hresult; cases hresult
    | ok a => rfl
  rw [save] at h
  split at h
  next => exact ⟨files, hwrite files h⟩
  next parent _ =>
    rw [perform_bind, perform_createDirs] at h
    cases hdirs : (createDirs files parent).1 with
    | error e => rw [hdirs] at h; cases h
    | ok a =>
      rw [hdirs] at h
      exact ⟨_, hwrite _ h⟩

/-- What is loaded is what the file is read as. -/
theorem perform_load_of_readFile {text : String} (hexists : pathExists files path)
    (hread : readFile files path = .ok text) :
    perform (load path) files =
      (((parse? text).elim (.error (.invalidSnapshot path)) fun s => .ok (some s)), files) := by
  rw [load, perform_bind, perform_pathExists]
  simp only [hexists, if_true, perform_bind, perform_readFile, hread]
  cases parse? text with
  | none => rfl
  | some s => rfl

end Files

end Snapshot

/-! ### Sessions -/

namespace Session

open FileSystem

variable {σ : Type} [FileSystem σ] {files files' : σ} {path : String}

/-- A session that is opened on a snapshot file holds what is loaded, or the initial store if there
is no such file. -/
theorem perform_start_of_load (e : Engine) (autosave : Bool) {loaded : Option Store}
    (h : perform (Snapshot.load path) files = (.ok loaded, files')) :
    perform (start e.config (some path) autosave) files =
      (.ok (ofStore e (loaded.getD .initial) (some path) autosave), files') := by
  have hengine : Engine.ofConfig e.config = .ok e := dif_pos e.valid
  rw [start, hengine]
  simp only [perform_bind, h]
  rfl

/-- A session that was saved has written its store. -/
theorem exists_writeFile_of_save {session : Session}
    (h : perform session.save files = (.ok path, files')) :
    ∃ files₀, writeFile files₀ path (Snapshot.toText session.store) = (.ok (), files') := by
  rw [save] at h
  split at h
  next => cases h
  next path' _ =>
    rw [perform_bind] at h
    cases hsave : perform (Snapshot.save path' session.store) files with
    | mk result files₁ =>
      rw [hsave] at h
      cases result with
      | error e => cases h
      | ok a =>
        cases h
        exact Snapshot.exists_writeFile_of_save hsave

end Session

namespace Snapshot

open FileSystem

/-- The snapshot of a store is read as the store if and only if its tables are canonical, and so is
the file that the store was saved to.  A session that is opened on this file then holds the store
and the index over it, and saving the session again writes the same text. -/
theorem load_save {σ : Type} [FileSystem σ] [LawfulFileSystem σ] (s : Store) :
    (parse? (toText s) = some s ↔ ∀ t, (s.table t).Canonical) ∧
      ∀ (path : String) (files files' : σ), perform (save path s) files = (.ok (), files') →
        readFile files' path = .ok (toText s) ∧
          (perform (load path) files' = (.ok (some s), files') ↔ ∀ t, (s.table t).Canonical) ∧
          ((∀ t, (s.table t).Canonical) → ∀ (e : Engine) (autosave : Bool),
            perform (Session.start e.config (some path) autosave) files' =
                (.ok ⟨e, s, e.rebuildIndex s, some path, autosave⟩, files') ∧
              ∀ files'',
                perform (Session.save ⟨e, s, e.rebuildIndex s, some path, autosave⟩) files' =
                    (.ok path, files'') → readFile files'' path = .ok (toText s)) := by
  refine ⟨parse?_toText_iff, fun path files files' hsave => ?_⟩
  obtain ⟨files₀, hwrite⟩ := exists_writeFile_of_save hsave
  obtain ⟨hexists, hread⟩ := LawfulFileSystem.readFile_writeFile hwrite
  have hload : perform (load path) files' = (.ok (some s), files') ↔
      ∀ t, (s.table t).Canonical := by
    rw [perform_load_of_readFile hexists hread, ← parse?_toText_iff]
    cases parse? (toText s) with
    | none => simp
    | some s' => simp
  refine ⟨hread, hload, fun hcanonical e autosave => ⟨?_, fun files'' hagain => ?_⟩⟩
  · exact Session.perform_start_of_load e autosave (hload.2 hcanonical)
  · obtain ⟨files₁, hwrite'⟩ := Session.exists_writeFile_of_save hagain
    exact (LawfulFileSystem.readFile_writeFile hwrite').2

/-- A store with quotes, backslashes, control characters and letters of other alphabets. -/
def quotedStore : Store where
  owners := { header := ["owner_id", "owner_name"], rows := [["1", "\"Ana\" \\ \x01\t"]] }
  dogs := { header := ["dog_id", "breed"], rows := [[" 7 ", "Galgo español\r"], ["", ""]] }

/-- The directory that the store is saved to. -/
def quotedFiles : Directory :=
  (perform (save "data/dogs.json" quotedStore) ({} : Directory)).2

/-- The session that is opened on it. -/
def quotedSession : Session :=
  ⟨.default, quotedStore, Engine.default.rebuildIndex quotedStore, some "data/dogs.json", true⟩

theorem load_save_quotedStore :
    perform (save "data/dogs.json" quotedStore) ({} : Directory) = (.ok (), quotedFiles) ∧
      (∀ t, (quotedStore.table t).Canonical) ∧
      perform (load "data/dogs.json") quotedFiles = (.ok (some quotedStore), quotedFiles) ∧
      (perform quotedSession.save quotedFiles).1 = .ok "data/dogs.json" ∧
      readFile (perform quotedSession.save quotedFiles).2 "data/dogs.json" =
        .ok (toText quotedStore) := by
  have hresult : (perform (save "data/dogs.json" quotedStore) ({} : Directory)).1 = .ok () := by
    decide +kernel
  have hsave : perform (save "data/dogs.json" quotedStore) ({} : Directory) =
      (.ok (), quotedFiles) :=
    Prod.ext hresult rfl
  have hcanonical : ∀ t, (quotedStore.table t).Canonical := by
    intro t
    refine Table.parse_toText_iff.1 ?_
    cases t with
    | owners => decide +kernel
    | dogs => decide +kernel
  have hagain : (perform quotedSession.save quotedFiles).1 = .ok "data/dogs.json" := by
    decide +kernel
  obtain ⟨-, hload, hsession⟩ :=
    (load_save quotedStore).2 "data/dogs.json" ({} : Directory) quotedFiles hsave
  exact ⟨hsave, hcanonical, hload.2 hcanonical, hagain,
    (hsession hcanonical .default true).2 _ (Prod.ext hagain rfl)⟩

end Snapshot

end DogRegistry
