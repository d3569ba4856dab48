import DogRegistry.Files.Basic

/-!
# Laws of files

A file holds what was written to it last, whatever was written elsewhere in the meantime.  This is
all that is relied on of a file system.

## Main definitions

* `FileSystem.perform` — what an action answers, and the files after it.
* `FileSystem.sight` — what can be seen of a path.
* `LawfulFileSystem` — the laws of files.
-/

namespace DogRegistry

namespace FileSystem

variable {σ : Type}

/-- What an action answers when it is carried out on some files, and the files after it. -/
def perform {α : Type} (action : StateM σ α) (files : σ) : α × σ :=
  action files

section Actions

variable {α β : Type} (files : σ)

@[simp] theorem perform_pure (a : α) : perform (pure a) files = (a, files) := rfl

@[simp] theorem perform_bind (action : StateM σ α) (next : α → StateM σ β) :
    perform (action >>= next) files =
      perform (next (perform action files).1) (perform action files).2 := rfl

variable [FileSystem σ] (path content : String)

@[simp] theorem perform_pathExists :
    perform (MonadFiles.pathExists path) files = (pathExists files path, files) := rfl

@[simp] theorem perform_readFile :
    perform (MonadFiles.readFile path) files = (readFile files path, files) := rfl

@[simp] theorem perform_createDirs :
    perform (MonadFiles.createDirs path) files = createDirs files path := rfl

@[simp] theorem perform_writeFile :
    perform (MonadFiles.writeFile path content) files = writeFile files path content := rfl

end Actions

/-- What can be seen of a path: whether something is there, and its content if it is a file that can
be read. -/
def sight [FileSystem σ] (files : σ) (path : String) : Bool × Option String :=
  (pathExists files path, (readFile files path).toOption)

end FileSystem

/-- A file system in which a file holds what was written to it last. -/
class LawfulFileSystem (σ : Type) [FileSystem σ] where
  /-- The paths lead to the same file, or would if it existed. -/
  SameFile : σ → String → String → Prop
  /-- A file that was written is there and can be read. -/
  readFile_writeFile {files files' : σ} {path content : String}
    (h : FileSystem.writeFile files path content = (.ok (), files')) :
    FileSystem.pathExists files' path ∧ FileSystem.readFile files' path = .ok content
  /-- Writing to one file changes no other, also if it fails. -/
  sight_writeFile {files : σ} {path other : String} (content : String)
    (h : ¬ SameFile files path other) :
    FileSystem.sight (FileSystem.writeFile files path content).2 other =
      FileSystem.sight files other

end DogRegistry
