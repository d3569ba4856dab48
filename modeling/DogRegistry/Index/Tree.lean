import DogRegistry.Index.Config
import DogRegistry.Index.Insert

/-!
# B+ trees

A tree is a root node together with the settings it is kept under.  It maps text keys to lists of
row identifiers and only ever grows.

## Main definitions

* `Tree.empty config` — the tree without keys.
* `Tree.insert?`, `Tree.insert` — adds a row identifier under a key.
* `Tree.ofEntries config es` — the tree that holds the entries `es`, inserted one after the other.
* `Tree.allKeys`, `Tree.entries` — what the leaves hold, from left to right.
* `Tree.stats` — the numbers of keys, entries and nodes.
-/

namespace DogRegistry

/-- A B+ tree. -/
structure Tree where
  /-- The node at the top. -/
  root : Node
  /-- Order and split policy. -/
  config : IndexConfig
  deriving DecidableEq, Repr, Inhabited

/-- The numbers that describe a tree. -/
structure TreeStats where
  /-- Distinct keys. -/
  keyCount : Nat
  /-- Row identifiers under all keys. -/
  entryCount : Nat
  /-- Leaves. -/
  leafCount : Nat
  /-- Internal nodes. -/
  internalCount : Nat
  /-- Levels from the root to the leaves. -/
  height : Nat
  /-- Keys in the largest leaf. -/
  maxLeafKeys : Nat
  deriving DecidableEq, Repr

namespace Tree

/-- The tree without keys: a single empty leaf. -/
def empty (config : IndexConfig) : Tree :=
  ⟨.leaf {}, config⟩

/-- Adds a row identifier under a key.  The root is split once it is full; under the recursive
policy so is every other node.  There is no result if a node on the path lacks a part that is
needed. -/
def insert? (t : Tree) (key : String) (id : RowId) : Option Tree :=
  match t.config.policy with
  | .rootOnly => do
    let root ← t.root.insertInLeaf? key id
    match ← root.splitIfFull? t.config.order with
    | .whole root => return { t with root }
    | .halves s => return { t with root := s.join }
  | .recursive => do
    match ← t.root.insertSplitting? t.config.order key id with
    | .whole root => return { t with root }
    | .halves s => return { t with root := s.join }

/-- Adds a row identifier under a key.  A tree that cannot be descended is left as it is. -/
def insert (t : Tree) (key : String) (id : RowId) : Tree :=
  (t.insert? key id).getD t

/-- The tree that holds the given entries, inserted in their order. -/
def ofEntries (config : IndexConfig) (es : List (String × RowId)) : Tree :=
  es.foldl (fun t e => t.insert e.1 e.2) (empty config)

/-- The levels from the root to the leaves. -/
def height (t : Tree) : Nat :=
  t.root.height

/-- The keys of all leaves, from left to right. -/
def allKeys (t : Tree) : List String :=
  t.root.allKeys

/-- The keys of all leaves with their row identifiers, from left to right. -/
def entries (t : Tree) : List (String × List RowId) :=
  t.root.entries

/-- `t.isEmpty` says the root is a leaf without keys. -/
def isEmpty (t : Tree) : Bool :=
  match t.root with
  | .leaf l => l.keys.isEmpty
  | .internal _ _ => false

/-- The numbers that describe the tree. -/
def stats (t : Tree) : TreeStats where
  keyCount := t.allKeys.length
  entryCount := t.root.ids.length
  leafCount := t.root.leaves.length
  internalCount := t.root.internalCount
  height := t.height
  maxLeafKeys := (t.root.leaves.map fun l => l.keys.length).foldl max 0

/-- The number of distinct keys. -/
def size (t : Tree) : Nat :=
  t.stats.keyCount

@[simp] theorem ofEntries_nil (config : IndexConfig) : ofEntries config [] = empty config := rfl

theorem ofEntries_append_singleton (config : IndexConfig) (es : List (String × RowId))
    (e : String × RowId) :
    ofEntries config (es ++ [e]) = (ofEntries config es).insert e.1 e.2 := by
  simp [ofEntries]

end Tree

end DogRegistry
