import DogRegistry.Index.Tree
import DogRegistry.Text.Split

/-!
# Checking a tree

A check of everything that makes a tree searchable: keys are strictly increasing in every node and
lie in the range that the nodes above assign, a leaf has a list of row identifiers for every key and
none of them is empty, an internal node has one child more than keys, and all leaves lie at the same
depth.

## Main definitions

* `StructureFault` — what can be wrong with a node.
* `Node.check` — the check below a node whose keys have to lie in a range.
* `Tree.check` — the check of a whole tree.
-/

namespace DogRegistry

open Text

/-- What can be wrong with a node. -/
inductive StructureFault
  /-- The keys of the node are not strictly increasing. -/
  | keysNotIncreasing (keys : List String)
  /-- A key lies below `lower`, or not below `upper`. -/
  | keyOutOfRange (key : String) (lower upper : Option String)
  /-- A leaf has not one list of row identifiers for every key. -/
  | valueCount (keys lists : Nat)
  /-- A leaf has a key without row identifiers. -/
  | emptyValueList
  /-- A leaf lies at another depth than the first one. -/
  | leafDepth (depth expected : Nat)
  /-- An internal node has not one child more than keys. -/
  | childCount (keys children : Nat)
  deriving DecidableEq, Repr

/-- What is wrong with a node, in words. -/
def StructureFault.describe : StructureFault → String
  | keysNotIncreasing keys => s!"keys not strictly increasing: {bracketed keys}"
  | keyOutOfRange key lower upper =>
    let lo := lower.getD "-inf"
    let hi := upper.getD "+inf"
    s!"key '{key}' outside its range [{lo}, {hi})"
  | valueCount keys lists => s!"leaf has {keys} keys but {lists} value lists"
  | emptyValueList => "leaf holds an empty value list"
  | leafDepth depth expected => s!"leaf at depth {depth}, expected {expected}"
  | childCount keys children => s!"internal node has {keys} keys but {children} children"

/-- The wording of the error. -/
def StructureFault.message (f : StructureFault) : String :=
  s!"tree structure error: {f.describe}"

/-- `increasing keys` says every key is below the next one. -/
def increasing : List String → Bool
  | [] => true
  | [_] => true
  | a :: b :: rest => a < b && increasing (b :: rest)

/-- `inRange lower upper key` says `key` is at least `lower` and below `upper`; a bound that is
absent bounds nothing. -/
def inRange (lower upper : Option String) (key : String) : Bool :=
  lower.all (fun lo => lo ≤ key) && upper.all fun hi => key < hi

/-- The check of a node's own keys. -/
def checkKeys (lower upper : Option String) (keys : List String) : Except StructureFault Unit :=
  if !increasing keys then
    .error (.keysNotIncreasing keys)
  else
    match keys.find? fun k => !inRange lower upper k with
    | some k => .error (.keyOutOfRange k lower upper)
    | none => .ok ()

/-- The check of what a leaf stores, and of its depth against that of the leaves before it. -/
def Leaf.check (depth : Nat) (leafDepth : Option Nat) (l : Leaf) :
    Except StructureFault (Option Nat) :=
  if l.values.length ≠ l.keys.length then
    .error (.valueCount l.keys.length l.values.length)
  else if l.values.any List.isEmpty then
    .error .emptyValueList
  else if leafDepth.getD depth ≠ depth then
    .error (.leafDepth depth (leafDepth.getD depth))
  else
    .ok (some depth)

namespace Node

mutual

/-- The check of a node at the given depth whose keys have to lie between `lower` and `upper`.  The
depth of the leaves seen before goes in, and that of the leaves seen after comes out. -/
def check (lower upper : Option String) (depth : Nat) :
    Node → Option Nat → Except StructureFault (Option Nat)
  | .leaf l, leafDepth => do
    checkKeys lower upper l.keys
    l.check depth leafDepth
  | .internal ks cs, leafDepth => do
    checkKeys lower upper ks
    if cs.length ≠ ks.length + 1 then
      throw (.childCount ks.length cs.length)
    checkChildren lower upper (depth + 1) ks cs leafDepth

/-- The check of the children that the keys `ks` separate, from left to right. -/
def checkChildren (lower upper : Option String) (depth : Nat) :
    List String → List Node → Option Nat → Except StructureFault (Option Nat)
  | _, [], leafDepth => return leafDepth
  | [], c :: cs, leafDepth => do
    let leafDepth ← check lower upper depth c leafDepth
    checkChildren upper upper depth [] cs leafDepth
  | k :: ks, c :: cs, leafDepth => do
    let leafDepth ← check lower (some k) depth c leafDepth
    checkChildren (some k) upper depth ks cs leafDepth

end

end Node

/-- The check of a whole tree: any key may occur, and the root lies at depth one. -/
def Tree.check (t : Tree) : Except StructureFault Unit := do
  let _ ← t.root.check none none 1 none
  return ()

end DogRegistry
