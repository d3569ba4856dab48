import DogRegistry.Index.Bisect
import DogRegistry.RowId

/-!
# Nodes of a B+ tree

A leaf pairs every key with the row identifiers stored under it; an internal node separates its
children by keys.  A node is plain data: nothing here says that keys are sorted or that a node has a
child for every range.  An operation that a node cannot answer because a part is missing gives
`none`.

## Main definitions

* `Leaf`, `Node` — the two kinds of nodes together.
* `Leaf.search`, `Leaf.get?`, `Leaf.insert?` — look-up and insertion in one leaf.
* `childIndex keys key` — the position of the child that covers `key`.
* `Node.leaves` — the leaves from left to right, with `Node.entries` and `Node.allKeys` read off.
* `Node.split?` — the two halves of a node and the separator between them.
* `Node.insertSplit?`, `Split.join` — the places a separator goes to.

## Main results

* `childIndex_eq_length_takeWhile` — between sorted separators the child is the one that covers the
  key.
* `Node.leaves_internal`, `Node.allKeys_internal`, `Node.entries_internal` — the view of an internal
  node is that of its children in a row.
-/

namespace DogRegistry

/-- A leaf: the row identifiers at a position of `values` belong to the key at that position of
`keys`. -/
structure Leaf where
  /-- The keys, in ascending order. -/
  keys : List String := []
  /-- The row identifiers of every key, in the order of insertion. -/
  values : List (List RowId) := []
  deriving DecidableEq, Repr, Inhabited

/-- A node of a B+ tree. -/
inductive Node
  /-- A node that holds row identifiers. -/
  | leaf (leaf : Leaf)
  /-- A node that separates its children by `keys`: the child at position `i` covers the keys from
  `keys[i - 1]` up to but not including `keys[i]`. -/
  | internal (keys : List String) (children : List Node)
  deriving Repr, Inhabited

/-! ### Equality -/

mutual

/-- Decides whether two nodes are equal. -/
def Node.decEq : (a b : Node) → Decidable (a = b)
  | .leaf a, .leaf b =>
    if h : a = b then isTrue (by rw [h]) else isFalse (by simp [h])
  | .leaf _, .internal _ _ => isFalse (by simp)
  | .internal _ _, .leaf _ => isFalse (by simp)
  | .internal ks as, .internal ls bs =>
    if h : ks = ls then
      match Node.decEqList as bs with
      | isTrue h' => isTrue (by rw [h, h'])
      | isFalse h' => isFalse (by simp [h'])
    else isFalse (by simp [h])

/-- Decides whether two lists of nodes are equal. -/
def Node.decEqList : (as bs : List Node) → Decidable (as = bs)
  | [], [] => isTrue rfl
  | [], _ :: _ => isFalse (by simp)
  | _ :: _, [] => isFalse (by simp)
  | a :: as, b :: bs =>
    match Node.decEq a b, Node.decEqList as bs with
    | isTrue h, isTrue h' => isTrue (by rw [h, h'])
    | isFalse h, _ => isFalse (by simp [h])
    | _, isFalse h' => isFalse (by simp [h'])

end

instance : DecidableEq Node := Node.decEq

/-! ### Leaves -/

/-- Where a key stands in a leaf. -/
inductive Placement
  /-- The key is stored at this position. -/
  | found (position : Nat)
  /-- The key is not stored and belongs at this position. -/
  | absent (position : Nat)
  deriving DecidableEq, Repr

namespace Leaf

/-- Looks for a key by halving the keys. -/
def search (leaf : Leaf) (key : String) : Placement :=
  match leaf.keys[lastNotAbove leaf.keys key]? with
  | none => .absent 0
  | some k =>
    if k = key then .found (lastNotAbove leaf.keys key)
    else if k < key then .absent (lastNotAbove leaf.keys key + 1)
    else .absent (lastNotAbove leaf.keys key)

/-- The row identifiers stored under a key. -/
def get? (leaf : Leaf) (key : String) : Option (List RowId) :=
  match leaf.search key with
  | .found i => leaf.values[i]?
  | .absent _ => none

/-- Adds a row identifier under a key: behind the ones that are there, or with the key at its place.
There is no result if the leaf has no list of identifiers at that place. -/
def insert? (leaf : Leaf) (key : String) (id : RowId) : Option Leaf :=
  match leaf.search key with
  | .found i => do
    let ids ← leaf.values[i]?
    return { leaf with values := leaf.values.set i (ids ++ [id]) }
  | .absent i =>
    if i ≤ leaf.values.length then
      some { keys := leaf.keys.insertIdx i key, values := leaf.values.insertIdx i [id] }
    else
      none

/-- The keys with their row identifiers. -/
def entries (leaf : Leaf) : List (String × List RowId) :=
  leaf.keys.zip leaf.values

/-- The row identifiers of all keys. -/
def ids (leaf : Leaf) : List RowId :=
  leaf.values.flatten

/-- How many row identifiers the leaf holds. -/
def entryCount (leaf : Leaf) : Nat :=
  leaf.ids.length

end Leaf

/-! ### Views -/

/-- The position of the child that covers `key`: the one behind the last separator that is not
above it. -/
def childIndex (keys : List String) (key : String) : Nat :=
  match keys[lastNotAbove keys key]? with
  | none => 0
  | some k => if key < k then lastNotAbove keys key else lastNotAbove keys key + 1

/-- Between separators in ascending order the child is the one behind all separators that are not
above the key. -/
theorem childIndex_eq_length_takeWhile {keys : List String} (h : keys.Pairwise (· ≤ ·))
    (key : String) : childIndex keys key = (keys.takeWhile fun k => k ≤ key).length := by
  symm
  obtain ⟨h₁, h₂⟩ := lastNotAbove_of_sorted h key
  unfold childIndex
  split
  next h₃ =>
    have h₄ : keys = [] := by
      refine Decidable.byContradiction fun h₅ => ?_
      have := lastNotAbove_lt h₅ key
      rw [List.getElem?_eq_none_iff] at h₃
      omega
    simp [h₄]
  next k h₃ =>
    obtain ⟨hi, rfl⟩ := List.getElem?_eq_some_iff.1 h₃
    split
    next h₄ =>
      have h₅ : lastNotAbove keys key = 0 := h₂.resolve_right fun h₅ => h₅ hi h₄
      refine length_takeWhile_eq (Nat.le_of_lt hi) (fun j _ hj => ?_) fun _ => ?_
      · omega
      · exact decide_eq_false fun h₆ => h₆ h₄
    next h₄ =>
      refine length_takeWhile_eq hi (fun j hj hji => ?_) fun hi' => ?_
      · refine decide_eq_true ?_
        rcases Nat.lt_or_eq_of_le (Nat.le_of_lt_succ hji) with hji | rfl
        · exact String.le_trans (List.pairwise_iff_getElem.1 h j _ hj hi hji) h₄
        · exact h₄
      · exact decide_eq_false fun h₆ => h₆ (h₁ _ hi' (Nat.lt_succ_self _))

/-- The range of keys that the child at position `i` covers, in words. -/
def branchRange (keys : List String) (i : Nat) : String :=
  match keys.getLast? with
  | none => "all keys"
  | some last =>
    match keys[i]? with
    | none => s!">= {last}"
    | some k =>
      match i with
      | 0 => s!"< {k}"
      | j + 1 =>
        let before := keys[j]?.getD ""
        s!"{before} <= key < {k}"

namespace Node

/-- The keys of the node itself. -/
def keys : Node → List String
  | .leaf l => l.keys
  | .internal ks _ => ks

/-- `n.isLeaf` says `n` is a leaf. -/
def isLeaf : Node → Bool
  | .leaf _ => true
  | .internal _ _ => false

mutual

/-- The levels from the node down to its leftmost leaf. -/
def height : Node → Nat
  | .leaf _ => 1
  | .internal _ cs => 1 + firstHeight cs

/-- The height of the first of some nodes, and `0` if there is none. -/
def firstHeight : List Node → Nat
  | [] => 0
  | c :: _ => height c

end

mutual

/-- The leaves below a node, from left to right. -/
def leaves : Node → List Leaf
  | .leaf l => [l]
  | .internal _ cs => leavesList cs

/-- The leaves below some nodes, from left to right. -/
def leavesList : List Node → List Leaf
  | [] => []
  | c :: cs => leaves c ++ leavesList cs

end

mutual

/-- How many internal nodes there are, the node itself included. -/
def internalCount : Node → Nat
  | .leaf _ => 0
  | .internal _ cs => 1 + internalCountList cs

/-- How many internal nodes there are in and below some nodes. -/
def internalCountList : List Node → Nat
  | [] => 0
  | c :: cs => internalCount c + internalCountList cs

end

/-- The keys of all leaves, from left to right. -/
def allKeys (n : Node) : List String :=
  n.leaves.flatMap Leaf.keys

/-- The keys of all leaves with their row identifiers, from left to right. -/
def entries (n : Node) : List (String × List RowId) :=
  n.leaves.flatMap Leaf.entries

/-- The row identifiers in all leaves, from left to right. -/
def ids (n : Node) : List RowId :=
  n.leaves.flatMap Leaf.ids

@[simp] theorem leaves_leaf (l : Leaf) : (Node.leaf l).leaves = [l] := by
  simp [leaves]

@[simp] theorem leaves_internal (ks : List String) (cs : List Node) :
    (Node.internal ks cs).leaves = cs.flatMap leaves := by
  rw [leaves]
  induction cs with
  | nil => simp [leavesList]
  | cons c cs ih => simp [leavesList, ih]

@[simp] theorem internalCount_leaf (l : Leaf) : (Node.leaf l).internalCount = 0 := by
  simp [internalCount]

@[simp] theorem internalCount_internal (ks : List String) (cs : List Node) :
    (Node.internal ks cs).internalCount = 1 + internalCountList cs := by
  rw [internalCount]

@[simp] theorem height_leaf (l : Leaf) : (Node.leaf l).height = 1 := by
  simp [height]

@[simp] theorem height_internal_nil (ks : List String) : (Node.internal ks []).height = 1 := by
  simp [height, firstHeight]

@[simp] theorem height_internal_cons (ks : List String) (c : Node) (cs : List Node) :
    (Node.internal ks (c :: cs)).height = 1 + c.height := by
  simp [height, firstHeight]

@[simp] theorem allKeys_leaf (l : Leaf) : (Node.leaf l).allKeys = l.keys := by
  simp [allKeys]

@[simp] theorem allKeys_internal (ks : List String) (cs : List Node) :
    (Node.internal ks cs).allKeys = cs.flatMap allKeys := by
  rw [allKeys, leaves_internal, List.flatMap_assoc]
  rfl

@[simp] theorem entries_leaf (l : Leaf) : (Node.leaf l).entries = l.entries := by
  simp [entries]

@[simp] theorem entries_internal (ks : List String) (cs : List Node) :
    (Node.internal ks cs).entries = cs.flatMap entries := by
  rw [entries, leaves_internal, List.flatMap_assoc]
  rfl

end Node

/-! ### Splits -/

/-- Two nodes side by side and the least key of the right one's range. -/
structure Split where
  /-- The lower half. -/
  left : Node
  /-- The key at which the range of the upper half begins. -/
  separator : String
  /-- The upper half. -/
  right : Node
  deriving DecidableEq, Repr

/-- The node above two halves. -/
def Split.join (s : Split) : Node :=
  .internal [s.separator] [s.left, s.right]

namespace Node

/-- The two halves of a node, cut at half of its keys.  The separator is the first key of the upper
half.  A leaf keeps it there; an internal node gives it up, so that both halves have one child more
than keys.  There is no result for a node without keys, or with too few values or children. -/
def split? : Node → Option Split
  | .leaf l =>
    let half := l.keys.length / 2
    match l.keys.drop half with
    | [] => none
    | separator :: _ =>
      if half ≤ l.values.length then
        some ⟨.leaf ⟨l.keys.take half, l.values.take half⟩, separator,
          .leaf ⟨l.keys.drop half, l.values.drop half⟩⟩
      else
        none
  | .internal ks cs =>
    let half := ks.length / 2
    match ks.drop half with
    | [] => none
    | separator :: upper =>
      if half + 1 ≤ cs.length then
        some ⟨.internal (ks.take half) (cs.take (half + 1)), separator,
          .internal upper (cs.drop (half + 1))⟩
      else
        none

/-- Places the separator and the upper half that come from splitting the child at position `i`.
There is no result for a leaf, or if the node has no such position. -/
def insertSplit? (n : Node) (i : Nat) (separator : String) (right : Node) : Option Node :=
  match n with
  | .leaf _ => none
  | .internal ks cs =>
    if i ≤ ks.length ∧ i + 1 ≤ cs.length then
      some (.internal (ks.insertIdx i separator) (cs.insertIdx (i + 1) right))
    else
      none

end Node

end DogRegistry
