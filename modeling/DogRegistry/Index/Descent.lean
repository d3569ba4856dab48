import DogRegistry.Index.Tree

/-!
# The way to a key

A search goes from the root to the one leaf whose range covers the key.  It is recorded as the
internal nodes passed, each with the pointer that was followed.

## Main definitions

* `Hop`, `Descent` — one internal node on the way, and the whole way.
* `Node.descend? key` — the way to the leaf that covers `key`.
* `Tree.get? key` — the row identifiers stored under `key`.
-/

namespace DogRegistry

/-- An internal node on the way to a key. -/
structure Hop where
  /-- The keys of the node. -/
  keys : List String
  /-- The position of the child that was entered. -/
  pointer : Nat
  deriving DecidableEq, Repr

/-- The range of keys that the pointer of the hop stands for, in words. -/
def Hop.range (h : Hop) : String :=
  branchRange h.keys h.pointer

/-- The way to a leaf. -/
structure Descent where
  /-- The internal nodes on the way, from the top. -/
  hops : List Hop
  /-- The leaf at the end. -/
  leaf : Leaf
  deriving DecidableEq, Repr

/-- The way that starts one node higher. -/
def Descent.via (h : Hop) (d : Descent) : Descent :=
  { d with hops := h :: d.hops }

namespace Node

mutual

/-- The way to the leaf that covers `key`.  There is none if a node on the way has no child at the
position of `key`. -/
def descend? (key : String) : Node → Option Descent
  | .leaf l => some ⟨[], l⟩
  | .internal ks cs =>
    (descendAt? key (childIndex ks key) cs).map (.via ⟨ks, childIndex ks key⟩)

/-- The way through the node at position `i`. -/
def descendAt? (key : String) : Nat → List Node → Option Descent
  | _, [] => none
  | 0, c :: _ => descend? key c
  | i + 1, _ :: cs => descendAt? key i cs

end

/-- The row identifiers stored under a key. -/
def get? (n : Node) (key : String) : Option (List RowId) := do
  let d ← n.descend? key
  d.leaf.get? key

theorem descendAt?_eq (key : String) (i : Nat) (cs : List Node) :
    descendAt? key i cs = cs[i]?.bind (descend? key) := by
  induction cs generalizing i with
  | nil => simp [descendAt?]
  | cons c cs ih => cases i <;> simp [descendAt?, ih]

end Node

/-- The row identifiers stored under a key. -/
def Tree.get? (t : Tree) (key : String) : Option (List RowId) :=
  t.root.get? key

end DogRegistry
