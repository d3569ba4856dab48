import DogRegistry.Index.Node

/-!
# Insertion below a node

A row identifier is added to the leaf that covers its key.  Either the nodes keep their shape, or
every node on the path that becomes full is split and its separator is placed into the node above.

## Main definitions

* `Node.insertInLeaf?` — insertion without splits.
* `Growth` — what an insertion with splits makes of a node: one node, or two halves.
* `Node.insertSplitting?` — insertion with splits.
-/

namespace DogRegistry

/-! ### Without splits -/

namespace Node

mutual

/-- Adds a row identifier to the leaf that covers `key`.  There is no result if a node on the path
has no child at the position of `key`. -/
def insertInLeaf? (key : String) (id : RowId) : Node → Option Node
  | .leaf l => (l.insert? key id).map .leaf
  | .internal ks cs => (insertInLeafAt? key id (childIndex ks key) cs).map (.internal ks)

/-- Adds a row identifier below the node at position `i`. -/
def insertInLeafAt? (key : String) (id : RowId) : Nat → List Node → Option (List Node)
  | _, [] => none
  | 0, c :: cs => (insertInLeaf? key id c).map (· :: cs)
  | i + 1, c :: cs => (insertInLeafAt? key id i cs).map (c :: ·)

end

end Node

/-! ### With splits -/

/-- What an insertion makes of a node. -/
inductive Growth
  /-- The node is not full. -/
  | whole (node : Node)
  /-- The node was full and has been split. -/
  | halves (split : Split)
  deriving DecidableEq, Repr

namespace Node

/-- The node itself below `order` keys, and its two halves from there on. -/
def splitIfFull? (order : Nat) (n : Node) : Option Growth :=
  if n.keys.length < order then some (.whole n) else n.split?.map .halves

/-- Puts what became of the child at position `i` in its place, with a new separator if the child
has been split. -/
def replaceChild? (i : Nat) (ks : List String) (cs : List Node) : Growth → Option Node
  | .whole c => some (.internal ks (cs.set i c))
  | .halves s => (internal ks (cs.set i s.left)).insertSplit? i s.separator s.right

mutual

/-- Adds a row identifier to the leaf that covers `key` and splits every node that then holds
`order` keys.  There is no result if a node on the path lacks a part that is needed. -/
def insertSplitting? (order : Nat) (key : String) (id : RowId) : Node → Option Growth
  | .leaf l => do
    let l ← l.insert? key id
    splitIfFull? order (.leaf l)
  | .internal ks cs => do
    match ← insertSplittingAt? order key id (childIndex ks key) cs with
    | .whole c => replaceChild? (childIndex ks key) ks cs (.whole c) |>.map .whole
    | .halves s =>
      let n ← replaceChild? (childIndex ks key) ks cs (.halves s)
      splitIfFull? order n

/-- What an insertion makes of the node at position `i`. -/
def insertSplittingAt? (order : Nat) (key : String) (id : RowId) :
    Nat → List Node → Option Growth
  | _, [] => none
  | 0, c :: _ => insertSplitting? order key id c
  | i + 1, _ :: cs => insertSplittingAt? order key id i cs

end

end Node

end DogRegistry
