import DogRegistry.Text.Cluster

/-!
# Backspaces

A text in which a backspace takes back what was entered before it.  It takes back a whole cluster,
such as a letter with its marks.

## Main definitions

* `Entered` — what was entered, and how much of it every backspace takes back.
* `applyBackspaces cs` — a text without its backspaces and what they take back.
-/

namespace DogRegistry.Text

/-- The backspace. -/
def backspace : Char := '\x08'

/-- The number of bytes of some characters. -/
def byteCount : List Char → Nat
  | [] => 0
  | c :: cs => c.utf8Size + byteCount cs

/-- The characters behind as many of the first ones as fit into `n` bytes. -/
def dropBytes (n : Nat) : List Char → List Char
  | [] => []
  | c :: cs => if c.utf8Size ≤ n then dropBytes (n - c.utf8Size) cs else c :: cs

/-- What was entered.  The sizes are counted in a byte each, so of a cluster of 256 bytes or more
only a part can be taken back. -/
structure Entered where
  /-- The characters, the last one first. -/
  reversed : List Char := []
  /-- The sizes of the clusters in bytes, the last one first. -/
  sizes : List Nat := []
  deriving DecidableEq, Repr

namespace Entered

/-- What was entered with one more cluster behind it, which may be a backspace. -/
def push (e : Entered) (cluster : List Char) : Entered :=
  if cluster = [backspace] then
    match e.sizes with
    | [] => e
    | size :: sizes => { reversed := dropBytes size e.reversed, sizes }
  else
    { reversed := cluster.reverse ++ e.reversed, sizes := byteCount cluster % 256 :: e.sizes }

end Entered

/-- A text without its backspaces and the clusters that they take back. -/
def applyBackspaces (cs : List Char) : List Char :=
  ((clusters cs).foldl Entered.push {}).reversed.reverse

@[simp] theorem applyBackspaces_nil : applyBackspaces [] = [] := rfl

end DogRegistry.Text
