/-!
# Index settings

A B+ tree has an *order*, the number of keys at which a node is full, and a policy that says which
full nodes are split.

## Main definitions

* `SplitPolicy` — which full nodes are split.
* `IndexConfig` — order and policy.
* `IndexConfig.Valid` — the order is at least `minOrder`.
* `IndexConfig.check` — the decision, with the error for an order that is too small.
-/

namespace DogRegistry

/-- Which full nodes an insertion splits. -/
inductive SplitPolicy
  /-- The root alone is split when it is full; deeper nodes grow without bound. -/
  | rootOnly
  /-- Every full node on the path is split, and its separator moves up. -/
  | recursive
  deriving DecidableEq, Repr, Inhabited

namespace SplitPolicy

/-- The written name of a policy. -/
def label : SplitPolicy → String
  | rootOnly => "root-only"
  | recursive => "recursive"

/-- The policy with the given name. -/
def ofLabel? : String → Option SplitPolicy
  | "root-only" => some rootOnly
  | "recursive" => some recursive
  | _ => none

@[simp] theorem ofLabel?_label (p : SplitPolicy) : ofLabel? p.label = some p := by
  cases p <;> rfl

end SplitPolicy

/-- The settings of an index. -/
structure IndexConfig where
  /-- The number of keys at which a node is full. -/
  order : Nat := 4
  /-- Which full nodes are split. -/
  policy : SplitPolicy := .rootOnly
  deriving DecidableEq, Repr, Inhabited

/-- An order below the least one. -/
structure InvalidOrder where
  /-- The order that was asked for. -/
  order : Nat
  deriving DecidableEq, Repr

namespace IndexConfig

/-- The least order.  Both halves of a full node then hold a key. -/
def minOrder : Nat := 3

/-- `c.Valid` says a tree can be kept under the settings `c`. -/
def Valid (c : IndexConfig) : Prop := minOrder ≤ c.order

instance (c : IndexConfig) : Decidable c.Valid :=
  inferInstanceAs (Decidable (minOrder ≤ c.order))

/-- Accepts valid settings and names the order of all others. -/
def check (c : IndexConfig) : Except InvalidOrder Unit :=
  if c.Valid then .ok () else .error ⟨c.order⟩

theorem check_eq_ok_iff (c : IndexConfig) : c.check = .ok () ↔ c.Valid := by
  unfold check
  split <;> simp_all

theorem valid_default : ({} : IndexConfig).Valid := by decide

end IndexConfig

/-- The wording of the error. -/
def InvalidOrder.message (e : InvalidOrder) : String :=
  s!"invalid index order: {e.order} (min: {IndexConfig.minOrder})"

end DogRegistry
