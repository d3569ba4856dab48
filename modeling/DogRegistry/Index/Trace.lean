import DogRegistry.Index.Descent
import DogRegistry.Text.Split

/-!
# Search traces

A search can be replayed step by step: the root, every internal node on the way with the pointer
that was followed, the leaf, and the outcome.

## Main definitions

* `StepKind`, `TraceStep` — one step of a search.
* `Descent.trace` — the steps of a search that took the given way.
* `Tree.search` — the row identifiers under a key, with the trace.
-/

namespace DogRegistry

open Text

/-- What a step of a search looks at. -/
inductive StepKind
  /-- The root, whatever its kind. -/
  | root
  /-- An internal node on the way. -/
  | internal
  /-- The leaf at the end of the way. -/
  | leaf
  deriving DecidableEq, Repr, Inhabited

namespace StepKind

/-- The written name of a kind. -/
def label : StepKind → String
  | root => "root"
  | internal => "internal"
  | leaf => "leaf"

/-- The kind with the given name. -/
def ofLabel? : String → Option StepKind
  | "root" => some root
  | "internal" => some internal
  | "leaf" => some leaf
  | _ => none

@[simp] theorem ofLabel?_label (k : StepKind) : ofLabel? k.label = some k := by
  cases k <;> rfl

end StepKind

/-- One step of a search. -/
structure TraceStep where
  /-- What the step looks at. -/
  kind : StepKind
  /-- What the step does. -/
  message : String
  /-- What it sees, if there is something to show. -/
  detail : Option String := none
  deriving DecidableEq, Repr

/-- What a search finds. -/
structure SearchOutcome where
  /-- The row identifiers under the key, in the order of insertion. -/
  rowIds : List RowId
  /-- The steps of the search. -/
  trace : List TraceStep
  deriving DecidableEq, Repr

/-- The step that enters an internal node. -/
def Hop.step (key : String) (h : Hop) : TraceStep :=
  ⟨.internal, s!"Internal node: searching for '{key}'",
    some s!"Following pointer {h.pointer} (range: {h.range})"⟩

/-- The step that reports the outcome. -/
def outcomeStep (key : String) : Option (List RowId) → TraceStep
  | some ids =>
    ⟨.leaf, s!"Match found for '{key}'",
      some s!"Row IDs retrieved: {bracketed (ids.map RowId.toText)}"⟩
  | none => ⟨.leaf, s!"No match found for '{key}'", none⟩

/-- The steps of a search for `key` that starts at a node with the keys `rootKeys`. -/
def Descent.trace (rootKeys : List String) (key : String) (d : Descent) : List TraceStep :=
  ⟨.root, "Accessing the B+ tree root", some s!"Root keys: {bracketed rootKeys}"⟩
    :: d.hops.map (Hop.step key)
    ++ [⟨.leaf, "Leaf reached: looking for an exact match",
          some s!"Leaf keys: {bracketed d.leaf.keys}"⟩,
        outcomeStep key (d.leaf.get? key)]

/-- Searches for a key and records every node on the way. -/
def Tree.search (t : Tree) (key : String) : SearchOutcome :=
  match t.root.descend? key with
  | some d => ⟨(d.leaf.get? key).getD [], d.trace t.root.keys key⟩
  | none => ⟨[], []⟩

end DogRegistry
