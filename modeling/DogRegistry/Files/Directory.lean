import DogRegistry.Files.Basic

/-!
# Directories in memory

A file system that is a plain value: files with their contents, and directories.  A path is followed
piece by piece from the working directory or the root, and every place on the way has to be a
directory that exists.  Of the directories above the working directory, and of the root, nothing is
known but that they exist.

## Main definitions

* `Directory` — the state of the file system.
* `Directory.entry` — what stands at a place.
* `Directory.walk`, `Directory.resolve` — the place that a path leads to.
* `Directory.target` — the name that a path gives to something that may not exist yet.
* `Directory.ofFiles`, `Directory.toList` — the files with their contents.
-/

namespace DogRegistry

/-- A file system in memory.  A place in it is the list of the names on the way from the working
directory; the way from the root begins with a slash, and the way upwards with pairs of dots. -/
structure Directory where
  /-- The files with their contents. -/
  files : List (List String × String) := []
  /-- The directories that were created, besides those that files lie in. -/
  folders : List (List String) := []
  deriving DecidableEq, Repr, Inhabited

namespace Directory

/-- What stands at a place. -/
inductive Entry
  /-- A file with its content. -/
  | file (content : String)
  /-- A directory. -/
  | folder
  /-- Nothing. -/
  | nothing
  deriving DecidableEq, Repr

/-- `isOuter place` says the place is the working directory, one above it, or the root. -/
def isOuter (place : List String) : Bool :=
  place = ["/"] || place.all (· = "..")

/-- The place above a directory. -/
def above (place : List String) : List String :=
  if place = ["/"] then place
  else if isOuter place then place ++ [".."]
  else place.dropLast

/-- What stands at a place. -/
def entry (d : Directory) (place : List String) : Entry :=
  match d.files.lookup place with
  | some content => .file content
  | none =>
    if isOuter place ∨ d.folders.contains place ∨ d.files.any fun f => place.isPrefixOf f.1 then
      .folder
    else
      .nothing

/-! ### Following paths -/

/-- The most bytes that a name may have. -/
def nameLimit : Nat := 255

/-- The number of bytes from which on a path is too long. -/
def pathLimit : Nat := 4096

/-- The place that one piece of a path leads to.  Only a directory can be left, also by a piece that
stays. -/
def step (d : Directory) (place : List String) (piece : String) : Except OsError (List String) :=
  match d.entry place with
  | .nothing => .error .notFound
  | .file _ => .error .notDirectory
  | .folder =>
    if isStay piece then .ok place
    else if piece = ".." then .ok (above place)
    else if nameLimit < piece.utf8ByteSize then .error .nameTooLong
    else if d.entry (place ++ [piece]) = .nothing then .error .notFound
    else .ok (place ++ [piece])

/-- The place that pieces of a path lead to. -/
def walk (d : Directory) (place : List String) (pieces : List String) :
    Except OsError (List String) :=
  pieces.foldlM d.step place

/-- The place where a path begins. -/
def origin (path : String) : List String :=
  if path.toList.head? = some '/' then ["/"] else []

/-- What keeps a path from being followed at all. -/
def malformed? (path : String) : Option OsError :=
  if path.toList.contains '\x00' then some .nulCharacter
  else if pathLimit ≤ path.utf8ByteSize then some .nameTooLong
  else if path = "" then some .notFound
  else none

/-- The place that a path leads to, where something stands. -/
def resolve (d : Directory) (path : String) : Except OsError (List String) :=
  match malformed? path with
  | some e => .error e
  | none => d.walk (origin path) (pathPieces path)

/-- What a path names if its last piece need not exist. -/
inductive Target
  /-- A directory that exists, because the path ends in a piece that is no name. -/
  | folder
  /-- A name in a directory, and whether a slash follows it. -/
  | entry (place : List String) (name : String) (slash : Bool)
  deriving DecidableEq, Repr

/-- What a path names.  Every piece but the last has to lead to a directory. -/
def target (d : Directory) (path : String) : Except OsError Target :=
  match malformed? path with
  | some e => .error e
  | none =>
    match (pathPieces path).reverse.dropWhile (· = "") with
    | [] => .ok .folder
    | last :: before => do
      let place ← d.walk (origin path) before.reverse
      let _ ← d.step place "."
      if last = "." ∨ last = ".." then return .folder
      else return .entry place last ((pathPieces path).getLast? = some "")

/-! ### Operations -/

/-- What stands where a path leads to. -/
def find (d : Directory) (path : String) : Except OsError Entry :=
  (d.resolve path).map d.entry

/-- Whether a file or directory has the path. -/
def pathExists (d : Directory) (path : String) : Bool :=
  (d.find path).toBool

/-- `d.isFolder path` says the path leads to a directory. -/
def isFolder (d : Directory) (path : String) : Bool :=
  match d.find path with
  | .ok .folder => true
  | _ => false

/-- The content of a file. -/
def readFile (d : Directory) (path : String) : Except OsError String := do
  match ← d.find path with
  | .file content => return content
  | .folder => throw .isDirectory
  | .nothing => throw .notFound

/-- Files with a new content for one of them. -/
def setFile (place : List String) (content : String) :
    List (List String × String) → List (List String × String)
  | [] => [(place, content)]
  | f :: fs => if f.1 = place then (place, content) :: fs else f :: setFile place content fs

/-- The place of the file that a path names, which may be a new one. -/
def writablePlace (d : Directory) (path : String) : Except OsError (List String) := do
  match ← d.target path with
  | .folder | .entry _ _ true => throw .isDirectory
  | .entry place name false =>
    if nameLimit < name.utf8ByteSize then throw .nameTooLong
    else if d.entry (place ++ [name]) = .folder then throw .isDirectory
    else return place ++ [name]

/-- Gives a file a new content, creating it if it does not exist. -/
def writeFile (d : Directory) (path content : String) : Except OsError Unit × Directory :=
  match d.writablePlace path with
  | .error e => (.error e, d)
  | .ok place => (.ok (), { d with files := setFile place content d.files })

/-- The place of the directory that a path names, where nothing stands yet. -/
def freePlace (d : Directory) (path : String) : Except OsError (List String) := do
  match ← d.target path with
  | .folder => throw .alreadyExists
  | .entry place name _ =>
    if nameLimit < name.utf8ByteSize then throw .nameTooLong
    else if d.entry (place ++ [name]) = .nothing then return place ++ [name]
    else throw .alreadyExists

/-- Creates a directory; one that exists already is no failure. -/
def createDir (d : Directory) (path : String) : Except OsError Unit × Directory :=
  match d.freePlace path with
  | .ok place => (.ok (), { d with folders := place :: d.folders })
  | .error e => (if d.isFolder path then .ok () else .error e, d)

/-- Creates the first of some directories, each of which lies in the next one, and before it those
of the others that it lacks. -/
def createInner (d : Directory) : List String → Except OsError Unit × Directory
  | [] => (.ok (), d)
  | path :: outer =>
    match d.createDir path with
    | (.error .notFound, _) =>
      match d.createInner outer with
      | (.ok (), d) => d.createDir path
      | (.error e, d) => (.error e, d)
    | result => result

/-- Creates a directory and all directories it lies in, where they do not exist yet. -/
def createDirs (d : Directory) (path : String) : Except OsError Unit × Directory :=
  d.createInner (outerPaths path).reverse

instance : FileSystem Directory where
  pathExists := pathExists
  readFile := readFile
  createDirs := createDirs
  writeFile := writeFile

/-! ### Contents -/

/-- The place of a path whose pieces are all names. -/
def placeOf (path : String) : List String :=
  (pathPieces path).filter fun piece => !isStay piece

/-- The file system with the given files in the working directory. -/
def ofFiles (files : List (String × String)) : Directory where
  files := files.map fun f => (placeOf f.1, f.2)

/-- The files in the working directory with their contents. -/
def toList (d : Directory) : List (String × String) :=
  (d.files.filter fun f => !(f.1.head?.any fun name => name = ".." || name = "/")).map fun f =>
    ("/".intercalate f.1, f.2)

end Directory

end DogRegistry
