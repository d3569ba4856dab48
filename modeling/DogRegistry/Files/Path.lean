import DogRegistry.Text.Split

/-!
# Paths

A path is a text whose pieces between slashes are followed one after the other.  An empty piece and
the piece `.` stay where they are, and the piece `..` goes to the directory above.

## Main definitions

* `pathPieces` — the pieces of a path.
* `outerPaths` — the path itself and the paths of the directories it lies in, by its text.
* `parentPath?` — the directory that a path lies in, by its text.
-/

namespace DogRegistry

open Text

/-- The pieces of a path between its slashes. -/
def pathPieces (path : String) : List String :=
  splitAtChar '/' path

/-- `isStay piece` says the piece does not lead to another place. -/
def isStay (piece : String) : Bool :=
  piece = "" || piece = "."

/-- The paths that lead on from the pieces `before`, piece by piece, where pieces that stay add no
path of their own. -/
def pathsFrom (before : List String) : List String → List String
  | [] => []
  | piece :: rest =>
    if isStay piece then pathsFrom (before ++ [piece]) rest
    else "/".intercalate (before ++ [piece]) :: pathsFrom (before ++ [piece]) rest

/-- The paths on the way of a path, the outermost first and the path itself last.  The way of an
absolute path begins at the root, and a dot counts where it stands first. -/
def outerPaths (path : String) : List String :=
  match pathPieces path with
  | "" :: piece :: rest => "/" :: pathsFrom [""] (piece :: rest)
  | "." :: rest => "." :: pathsFrom ["."] rest
  | pieces => pathsFrom [] pieces

/-- The directory that a path lies in, which is the empty path for a plain name.  There is none for
the empty path and for the root. -/
def parentPath? (path : String) : Option String :=
  match (outerPaths path).reverse with
  | [] => none
  | [outermost] => if outermost = "/" then none else some ""
  | _ :: parent :: _ => some parent

end DogRegistry
