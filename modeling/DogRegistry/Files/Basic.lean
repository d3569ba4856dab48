import DogRegistry.Files.Path

/-!
# Files

What the shell needs of a file system: to ask for a path, to read and write whole files, and to
create directories.  Any of these but the first may fail.

## Main definitions

* `OsError` — the ways a file operation fails.
* `FileSystem σ` — a file system whose state is a value of `σ`.
* `MonadFiles m` — the actions of a monad that works with files; every `StateM σ` over a file system
  is one.
-/

namespace DogRegistry

/-- The ways a file operation fails. -/
inductive OsError
  /-- The path, or a directory on it, does not exist. -/
  | notFound
  /-- A file stands where a directory is to be created. -/
  | alreadyExists
  /-- A file stands where a directory is needed. -/
  | notDirectory
  /-- A directory stands where a file is needed. -/
  | isDirectory
  /-- The path, or a name on it, is too long. -/
  | nameTooLong
  /-- The path holds the character that ends a path for the operating system. -/
  | nulCharacter
  /-- Any other failure, in words. -/
  | other (description : String)
  deriving DecidableEq, Repr

/-- The wording of a failure. -/
def OsError.message : OsError → String
  | notFound => "No such file or directory (os error 2)"
  | alreadyExists => "File exists (os error 17)"
  | notDirectory => "Not a directory (os error 20)"
  | isDirectory => "Is a directory (os error 21)"
  | nameTooLong => "File name too long (os error 36)"
  | nulCharacter => "file name contained an unexpected NUL byte"
  | other description => description

/-- A file system whose state is a value of `σ`. -/
class FileSystem (σ : Type) where
  /-- Whether a file or directory has the path. -/
  pathExists : σ → String → Bool
  /-- The content of a file. -/
  readFile : σ → String → Except OsError String
  /-- Creates a directory and all directories it lies in, where they do not exist yet. -/
  createDirs : σ → String → Except OsError Unit × σ
  /-- Gives a file a new content, creating it if it does not exist. -/
  writeFile : σ → String → String → Except OsError Unit × σ

/-- The actions of a monad that works with files. -/
class MonadFiles (m : Type → Type) where
  /-- Whether a file or directory has the path. -/
  pathExists : String → m Bool
  /-- The content of a file. -/
  readFile : String → m (Except OsError String)
  /-- Creates a directory and all directories it lies in, where they do not exist yet. -/
  createDirs : String → m (Except OsError Unit)
  /-- Gives a file a new content, creating it if it does not exist. -/
  writeFile : String → String → m (Except OsError Unit)

instance {σ : Type} [FileSystem σ] : MonadFiles (StateM σ) where
  pathExists path := fun s => (FileSystem.pathExists s path, s)
  readFile path := fun s => (FileSystem.readFile s path, s)
  createDirs path := fun s => FileSystem.createDirs s path
  writeFile path content := fun s => FileSystem.writeFile s path content

end DogRegistry
