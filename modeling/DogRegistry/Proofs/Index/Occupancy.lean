import DogRegistry.Proofs.Index.Check
import Mathlib.Algebra.Group.Action.Defs
import Mathlib.Algebra.Order.BigOperators.Group.List
import Mathlib.Data.Nat.Log

/-!
# How full the nodes are

Where every full node is split, no node below the root has less than half of the keys that it has
room for, so the height of a tree grows with the logarithm of the number of its keys.  A leaf and an
internal node are halved in different ways: the separator between two leaves stays in the upper one,
while the separator between two internal nodes is kept by neither.

## Main definitions

* `Node.Everywhere P` — `P` holds of a node and of all nodes below it.
* `Node.HalfFull order` — the bounds on the number of keys of one node.
* `Node.HalfFullBelow order` — a node that is not full, with half full nodes below it.
* `Growth.HalfFullFrom order n` — what insertion may make of the node `n`.
* `Tree.HalfFull` — the bounds on all nodes of a tree.

## Main results

* `Node.everywhere_of_split?` — the halves of a node with one key too many are half full.
* `Node.HalfFullBelow.halfFullFrom_of_insertSplitting?` — insertion below a node keeps the bounds.
* `Node.WellFormed.pow_mul_le` — how many keys there are at least, level by level.
* `Tree.HalfFull.insert` — insertion into a tree keeps the bounds.
* `Tree.halfFull_ofEntries` — a tree filled by insertions has half full nodes and a logarithmic
  height.
-/

namespace DogRegistry

variable {lower upper : Option String} {key : String} {id : RowId} {levels order : Nat}

/-! ### The numbers of keys -/

namespace Node

/-- The nodes right below a node. -/
def children : Node → List Node
  | .leaf _ => []
  | .internal _ cs => cs

/-- `n.Everywhere P` says `P` holds of `n` and of all nodes below it. -/
inductive Everywhere (P : Node → Prop) : Node → Prop
  /-- It holds of a node and everywhere in its children. -/
  | node {n : Node} (here : P n) (below : ∀ c ∈ n.children, Everywhere P c) : Everywhere P n

/-- How many keys a node below the root has at least: half of the order, rounded down, in a leaf,
and one less than half of the order, rounded up, elsewhere. -/
def leastKeys (order : Nat) (n : Node) : Nat :=
  if n.isLeaf then order / 2 else (order + 1) / 2 - 1

/-- `n.HalfFull order` says `n` has at least half of the keys that it has room for, and is not
full. -/
structure HalfFull (order : Nat) (n : Node) : Prop where
  /-- There are enough keys. -/
  least_le : n.leastKeys order ≤ n.keys.length
  /-- There are not too many. -/
  lt_order : n.keys.length < order

/-- `n.HalfFullBelow order` says `n` is not full and all nodes below it are half full. -/
structure HalfFullBelow (order : Nat) (n : Node) : Prop where
  /-- There are not too many keys. -/
  lt_order : n.keys.length < order
  /-- The nodes below are half full. -/
  below : ∀ c ∈ n.children, c.Everywhere (HalfFull order)

variable {n : Node}

theorem Everywhere.halfFullBelow (h : n.Everywhere (HalfFull order)) : n.HalfFullBelow order := by
  obtain ⟨here, below⟩ := h
  exact ⟨here.lt_order, below⟩

theorem HalfFullBelow.everywhere (h : n.HalfFullBelow order)
    (hleast : n.leastKeys order ≤ n.keys.length) : n.Everywhere (HalfFull order) :=
  .node ⟨hleast, h.lt_order⟩ h.below

end Node

/-- `g.HalfFullFrom order n` says `g` is a node of the kind of `n` that has lost no key, with half
full nodes below it, or two half full halves. -/
def Growth.HalfFullFrom (order : Nat) (n : Node) : Growth → Prop
  | .whole n' => n'.HalfFullBelow order ∧ n'.isLeaf = n.isLeaf ∧ n.keys.length ≤ n'.keys.length
  | .halves s => s.left.Everywhere (Node.HalfFull order) ∧ s.right.Everywhere (Node.HalfFull order)

/-- What becomes of a half full node is half full. -/
theorem Growth.HalfFullFrom.everywhere {g : Growth} {n : Node} (hg : g.HalfFullFrom order n)
    (hn : n.Everywhere (Node.HalfFull order)) :
    ∀ c ∈ g.nodes, c.Everywhere (Node.HalfFull order) := by
  obtain ⟨here, -⟩ := hn
  cases g with
  | whole n' =>
    obtain ⟨hbelow, hkind, hkeys⟩ := hg
    refine List.forall_mem_singleton.2 (hbelow.everywhere ?_)
    rw [Node.leastKeys, hkind]
    exact here.least_le.trans hkeys
  | halves s => exact List.forall_mem_cons.2 ⟨hg.1, List.forall_mem_singleton.2 hg.2⟩

/-! ### Insertion below a node -/

/-- An insertion into a leaf adds at most one key. -/
theorem Leaf.length_keys_insert? {l l' : Leaf} (h : l.insert? key id = some l') :
    l.keys.length ≤ l'.keys.length ∧ l'.keys.length ≤ l.keys.length + 1 := by
  rw [insert?] at h
  split at h
  next i =>
    obtain ⟨ids, -, hl'⟩ := Option.bind_eq_some_iff.1 h
    obtain rfl := Option.some.inj hl'
    exact ⟨Nat.le_refl _, Nat.le_succ _⟩
  next i =>
    split at h
    next =>
      obtain rfl := Option.some.inj h
      exact ⟨List.length_le_length_insertIdx, List.length_insertIdx_le_succ⟩
    next => exact absurd h (by simp)

namespace Node

/-- What became of a child adds its separators to the keys, and its nodes to the children. -/
theorem length_keys_replaceChild? {i : Nat} {ks : List String} {cs : List Node} {g : Growth}
    {n : Node} (h : replaceChild? i ks cs g = some n) :
    n.isLeaf = false ∧ n.keys.length = ks.length + g.separators.length ∧
      ∀ c ∈ n.children, c ∈ cs ∨ c ∈ g.nodes := by
  cases g with
  | whole c' =>
    obtain rfl := Option.some.inj h
    refine ⟨rfl, rfl, fun c hc => ?_⟩
    rcases List.mem_or_eq_of_mem_set hc with hc | rfl
    · exact .inl hc
    · exact .inr List.mem_cons_self
  | halves s =>
    rw [replaceChild?, insertSplit?] at h
    split at h
    next hroom =>
      obtain rfl := Option.some.inj h
      refine ⟨rfl, List.length_insertIdx_of_le_length hroom.1 _, fun c hc => ?_⟩
      rcases (List.mem_insertIdx hroom.2).1 hc with rfl | hc
      · exact .inr (List.mem_cons_of_mem _ List.mem_cons_self)
      · rcases List.mem_or_eq_of_mem_set hc with hc | rfl
        · exact .inl hc
        · exact .inr List.mem_cons_self
    next => exact absurd h (by simp)

/-- The halves of a node are of its kind and share its keys and children.  The lower half gets half
of the keys, rounded down, and the upper half the others, but for the separator of an internal
node. -/
theorem length_keys_split? {n : Node} {s : Split} (hs : n.split? = some s) :
    (s.left.isLeaf = n.isLeaf ∧ s.right.isLeaf = n.isLeaf) ∧
      s.left.keys.length = n.keys.length / 2 ∧
      s.right.keys.length + (if n.isLeaf then 0 else 1) = n.keys.length - n.keys.length / 2 ∧
      ∀ c, c ∈ s.left.children ∨ c ∈ s.right.children → c ∈ n.children := by
  cases n with
  | leaf l =>
    rw [split?] at hs
    split at hs
    next => exact absurd hs (by simp)
    next =>
      split at hs
      next =>
        obtain rfl := Option.some.inj hs
        exact ⟨⟨rfl, rfl⟩, List.length_take_of_le (Nat.div_le_self _ _), List.length_drop,
          fun c hc => hc.elim id id⟩
      next => exact absurd hs (by simp)
  | internal ks cs =>
    rw [split?] at hs
    split at hs
    next => exact absurd hs (by simp)
    next separator upper hupper =>
      have hlength : upper.length + 1 = ks.length - ks.length / 2 := by
        rw [← List.length_cons, ← hupper, List.length_drop]
      split at hs
      next =>
        obtain rfl := Option.some.inj hs
        exact ⟨⟨rfl, rfl⟩, List.length_take_of_le (Nat.div_le_self _ _), hlength,
          fun c hc => hc.elim List.mem_of_mem_take List.mem_of_mem_drop⟩
      next => exact absurd hs (by simp)

/-- The halves of a node that has exactly as many keys as the order are half full. -/
theorem everywhere_of_split? {n : Node} {s : Split} (hs : n.split? = some s) (ho : 2 ≤ order)
    (hn : n.keys.length = order) (hbelow : ∀ c ∈ n.children, c.Everywhere (HalfFull order)) :
    s.left.Everywhere (HalfFull order) ∧ s.right.Everywhere (HalfFull order) := by
  obtain ⟨⟨hleftKind, hrightKind⟩, hleft, hright, hchildren⟩ := length_keys_split? hs
  rw [hn] at hleft hright
  have hleast : n.leastKeys order ≤ order / 2 ∧ n.leastKeys order ≤ s.right.keys.length := by
    rw [leastKeys]
    split at hright
    next hleaf =>
      rw [if_pos hleaf]
      omega
    next hleaf =>
      rw [if_neg hleaf]
      omega
  have hleftLt : s.left.keys.length < order := by omega
  have hrightLt : s.right.keys.length < order := by omega
  refine ⟨.node ⟨?_, hleftLt⟩ fun c hc => hbelow c (hchildren c (.inl hc)),
    .node ⟨?_, hrightLt⟩ fun c hc => hbelow c (hchildren c (.inr hc))⟩
  · rw [leastKeys, hleftKind, hleft]
    exact hleast.1
  · rw [leastKeys, hrightKind]
    exact hleast.2

/-- A node with one key too many is split into half full halves, and any other node stays as it
is. -/
theorem halfFullFrom_of_splitIfFull? {n n' : Node} {g : Growth}
    (hg : n'.splitIfFull? order = some g) (ho : 2 ≤ order) (hkind : n'.isLeaf = n.isLeaf)
    (hle : n.keys.length ≤ n'.keys.length) (hlt : n'.keys.length ≤ order)
    (hbelow : ∀ c ∈ n'.children, c.Everywhere (HalfFull order)) : g.HalfFullFrom order n := by
  rw [splitIfFull?] at hg
  split at hg
  next hroom =>
    obtain rfl := Option.some.inj hg
    exact ⟨⟨hroom, hbelow⟩, hkind, hle⟩
  next hfull =>
    obtain ⟨s, hs, rfl⟩ := Option.map_eq_some_iff.1 hg
    exact everywhere_of_split? hs ho (by omega) hbelow

/-- Insertion below a node keeps the bounds on the number of keys. -/
theorem HalfFullBelow.halfFullFrom_of_insertSplitting? {n : Node} (h : n.HalfFullBelow order)
    (ho : 2 ≤ order) {g : Growth} (hg : n.insertSplitting? order key id = some g) :
    g.HalfFullFrom order n := by
  induction n using children_induction generalizing g with
  | leaf l =>
    rw [insertSplitting?] at hg
    obtain ⟨l', hl', hg⟩ := Option.bind_eq_some_iff.1 hg
    obtain ⟨hle, hlt⟩ := Leaf.length_keys_insert? hl'
    exact halfFullFrom_of_splitIfFull? hg ho rfl hle (hlt.trans h.lt_order)
      fun _ hc => absurd hc List.not_mem_nil
  | internal ks cs ih =>
    rw [insertSplitting?, insertSplittingAt?_eq] at hg
    obtain ⟨g', hg', hg⟩ := Option.bind_eq_some_iff.1 hg
    obtain ⟨c, hc, hg'⟩ := Option.bind_eq_some_iff.1 hg'
    have hmem : c ∈ cs := List.mem_of_getElem? hc
    have hchild : c.Everywhere (HalfFull order) := h.below c hmem
    have hnodes := (ih c hmem hchild.halfFullBelow hg').everywhere hchild
    -- whatever became of the child, all children are half full again
    have hbelow {n' : Node} (hn' : ∀ c ∈ n'.children, c ∈ cs ∨ c ∈ g'.nodes) :
        ∀ c ∈ n'.children, c.Everywhere (HalfFull order) := fun c hc =>
      (hn' c hc).elim (h.below c) (hnodes c)
    cases g' with
    | whole c' =>
      obtain ⟨n', hn', rfl⟩ := Option.map_eq_some_iff.1 hg
      obtain ⟨hkind, hkeys, hchildren⟩ := length_keys_replaceChild? hn'
      have hlt : n'.keys.length < order := hkeys ▸ h.lt_order
      exact ⟨⟨hlt, hbelow hchildren⟩, hkind, hkeys.ge⟩
    | halves s =>
      obtain ⟨n', hn', hg⟩ := Option.bind_eq_some_iff.1 hg
      obtain ⟨hkind, hkeys, hchildren⟩ := length_keys_replaceChild? hn'
      have hlt : n'.keys.length ≤ order := hkeys ▸ h.lt_order
      exact halfFullFrom_of_splitIfFull? hg ho hkind (hkeys.ge.trans' (Nat.le_succ _)) hlt
        (hbelow hchildren)

end Node

/-! ### The number of keys below a node -/

namespace Node

/-- So many children with so many keys each have the product of the two together. -/
theorem mul_le_length_allKeys {ks : List String} {cs : List Node} {k count : Nat}
    (hks : KeysWithin lower upper ks) (hcs : Separated (Node.WellFormed levels) lower upper ks cs)
    (hk : k ≤ cs.length)
    (h : ∀ c ∈ cs, ∀ lo hi, c.WellFormed levels lo hi → count ≤ c.allKeys.length) :
    k * count ≤ (internal ks cs).allKeys.length := by
  have hchild : ∀ c ∈ cs, count ≤ c.allKeys.length := by
    intro c hc
    obtain ⟨lo, hi, hwf, -⟩ := hcs.exists_of_mem hks hc
    exact h c hc lo hi hwf
  have hsum := List.card_nsmul_le_sum (cs.map fun c => c.allKeys.length) count
    (List.forall_mem_map.2 hchild)
  rw [List.length_map, smul_eq_mul, ← List.length_flatMap, ← allKeys_internal ks] at hsum
  exact (Nat.mul_le_mul_right count hk).trans hsum

/-- A half full node has at least half of the order as the number of its children, level by level,
and so many keys in each leaf. -/
theorem WellFormed.pow_mul_le {n : Node} (h : n.WellFormed levels lower upper)
    (hn : n.Everywhere (HalfFull order)) :
    ((order + 1) / 2) ^ levels * (order / 2) ≤ n.allKeys.length := by
  induction h using WellFormed.induction with
  | leaf _ =>
    obtain ⟨here, -⟩ := hn
    rw [pow_zero, Nat.one_mul, allKeys_leaf]
    exact here.least_le
  | @internal levels _ _ ks cs hks hcs ih =>
    obtain ⟨here, below⟩ := hn
    have hchildren : (order + 1) / 2 ≤ cs.length := by
      have hleast : (order + 1) / 2 - 1 ≤ ks.length := here.least_le
      rw [hcs.length_eq]
      omega
    calc ((order + 1) / 2) ^ (levels + 1) * (order / 2)
        = (order + 1) / 2 * (((order + 1) / 2) ^ levels * (order / 2)) := by
          rw [pow_succ', Nat.mul_assoc]
      _ ≤ (internal ks cs).allKeys.length :=
          mul_le_length_allKeys hks hcs hchildren fun c hc _ _ hwf => ih hwf (below c hc)

/-- An internal node with a key has the keys of at least two half full nodes below it. -/
theorem WellFormed.two_mul_pow_le {n : Node} (h : n.WellFormed levels lower upper)
    (hn : n.HalfFullBelow order) (hpos : n.isLeaf = false → 1 ≤ n.keys.length)
    (hheight : 2 ≤ n.height) :
    2 * ((order + 1) / 2) ^ (n.height - 2) * (order / 2) ≤ n.allKeys.length := by
  rw [h.height_eq] at hheight ⊢
  induction h using WellFormed.induction with
  | leaf _ => omega
  | @internal levels _ _ ks cs hks hcs _ =>
    have htwo : 2 ≤ cs.length := by
      have hkey : 1 ≤ ks.length := hpos rfl
      rw [hcs.length_eq]
      omega
    calc 2 * ((order + 1) / 2) ^ levels * (order / 2)
        = 2 * (((order + 1) / 2) ^ levels * (order / 2)) := Nat.mul_assoc _ _ _
      _ ≤ (internal ks cs).allKeys.length :=
          mul_le_length_allKeys hks hcs htwo fun c hc _ _ hwf => hwf.pow_mul_le (hn.below c hc)

end Node

/-! ### Trees -/

namespace Tree

/-- `t.HalfFull` says that no node of `t` is full, that all nodes below the root are half full, that
an internal root has a key, and that all leaves lie at the same depth. -/
structure HalfFull (t : Tree) : Prop where
  /-- The root is not full, and the nodes below it are half full. -/
  root : t.root.HalfFullBelow t.config.order
  /-- An internal root has a key. -/
  root_pos : t.root.isLeaf = false → 1 ≤ t.root.keys.length
  /-- All leaves lie at the depth that is the height. -/
  balanced : t.Balanced

variable {t : Tree}

/-- An insertion keeps the bounds on the number of keys. -/
theorem HalfFull.insert (h : t.HalfFull) (hpolicy : t.config.policy = .recursive)
    (hwf : t.WellFormed) (hv : t.config.Valid) (key : String) (id : RowId) :
    (t.insert key id).HalfFull := by
  have hwf' := hwf.insert hv key id
  have ho : 2 ≤ t.config.order := Nat.le_trans (by decide) hv
  obtain ⟨levels, hroot⟩ := hwf
  obtain ⟨g, hg, -⟩ := hroot.insertSplitting?_spec ho (inRange_none_none key) id
  have hgrowth : g.HalfFullFrom t.config.order t.root :=
    h.root.halfFullFrom_of_insertSplitting? ho hg
  have hinsert : t.insert key id = { t with root := g.root } := by
    rw [Tree.insert, insert?_of_recursive hpolicy hg, Option.getD_some]
  rw [hinsert] at hwf' ⊢
  cases g with
  | whole n =>
    obtain ⟨hbelow, hkind, hkeys⟩ := hgrowth
    exact ⟨hbelow, fun hinternal => (h.root_pos (hkind ▸ hinternal)).trans hkeys, hwf'.balanced⟩
  | halves s =>
    refine ⟨⟨?_, List.forall_mem_cons.2 ⟨hgrowth.1, List.forall_mem_singleton.2 hgrowth.2⟩⟩,
      fun _ => Nat.le_refl 1, hwf'.balanced⟩
    -- the new root has a single key
    exact ho

/-- So do all insertions into the empty tree. -/
theorem halfFull_recursive (ho : 3 ≤ order) (es : List (String × RowId)) :
    (ofEntries ⟨order, .recursive⟩ es).HalfFull := by
  have hv : IndexConfig.Valid ⟨order, .recursive⟩ := ho
  refine ofEntries_induction (P := fun _ t => t.HalfFull) hv ?_ ?_ es
  · refine ⟨⟨?_, fun _ hc => absurd hc List.not_mem_nil⟩, ?_, (wellFormed_empty _).balanced⟩
    · show 0 < order
      omega
    · exact fun hinternal => absurd hinternal Bool.noConfusion
  · intro es t e hconfig hwf _ ih
    have hpolicy : t.config.policy = .recursive := by rw [hconfig]
    exact ih.insert hpolicy hwf (hconfig.symm ▸ hv) e.1 e.2

/-- A tree of several levels has the keys of at least two half full nodes below its root. -/
theorem HalfFull.pow_mul_le_size (h : t.HalfFull) (hwf : t.WellFormed) (hheight : 2 ≤ t.height) :
    2 * ((t.config.order + 1) / 2) ^ (t.height - 2) * (t.config.order / 2) ≤ t.size := by
  obtain ⟨levels, hroot⟩ := hwf
  exact hroot.two_mul_pow_le h.root h.root_pos hheight

/-- So the height is logarithmic in the number of keys. -/
theorem HalfFull.height_le_log (h : t.HalfFull) (hwf : t.WellFormed) (hv : t.config.Valid) :
    t.height ≤
      Nat.log ((t.config.order + 1) / 2) (t.size / (2 * (t.config.order / 2))) + 2 := by
  have ho : 3 ≤ t.config.order := hv
  rcases Nat.lt_or_ge t.height 2 with hlow | hhigh
  · omega
  · have hpow : ((t.config.order + 1) / 2) ^ (t.height - 2) ≤
        t.size / (2 * (t.config.order / 2)) := by
      rw [Nat.le_div_iff_mul_le (by omega), Nat.mul_left_comm, ← Nat.mul_assoc]
      exact h.pow_mul_le_size hwf hhigh
    have hlog := Nat.le_log_of_pow_le (by omega) hpow
    omega

/-- Under the recursive policy, whatever is inserted into the empty tree, no node is full, all nodes
below the root are half full, an internal root has a key and all leaves lie at the same depth.  So a
tree of several levels holds a number of distinct keys that grows with its height like a power, and
the height is logarithmic in the number of keys. -/
theorem halfFull_ofEntries (ho : 3 ≤ order) (es : List (String × RowId)) :
    let t := ofEntries ⟨order, .recursive⟩ es
    (t.config = ⟨order, .recursive⟩ ∧ t.HalfFull) ∧
      t.size = (es.map Prod.fst).dedup.length ∧
      (2 ≤ t.height →
        2 * ((order + 1) / 2) ^ (t.height - 2) * (order / 2) ≤ t.size) ∧
      t.height ≤ Nat.log ((order + 1) / 2) (t.size / (2 * (order / 2))) + 2 := by
  intro t
  have hv : IndexConfig.Valid ⟨order, .recursive⟩ := ho
  have hconfig : t.config = ⟨order, .recursive⟩ := config_ofEntries hv es
  have hwf : t.WellFormed := wellFormed_ofEntries hv es
  have hfull : t.HalfFull := halfFull_recursive ho es
  have hpow := hfull.pow_mul_le_size hwf
  have hlog := hfull.height_le_log hwf (valid_config_ofEntries hv es)
  rw [hconfig] at hpow hlog
  exact ⟨⟨hconfig, hfull⟩, size_ofEntries hv es, hpow, hlog⟩

/-- Five breeds that come in order make a tree of three levels under order three. -/
theorem halfFull_ofEntries_threeLevels :
    let t := ofEntries ⟨3, .recursive⟩ [("Akita", .first), ("Beagle", .first), ("Boxer", .first),
      ("Collie", .first), ("Pug", .first)]
    3 ≤ 3 ∧ t.height = 3 ∧ t.HalfFull ∧ 4 ≤ t.size := by
  intro t
  have hheight : t.height = 3 := by decide +kernel
  obtain ⟨⟨-, hfull⟩, -, hsize, -⟩ := halfFull_ofEntries (Nat.le_refl 3)
    [("Akita", .first), ("Beagle", .first), ("Boxer", .first), ("Collie", .first), ("Pug", .first)]
  have hfour := hsize (hheight.ge.trans' (Nat.le_succ 2))
  rw [hheight] at hfour
  exact ⟨Nat.le_refl 3, hheight, hfull, hfour⟩

end Tree

end DogRegistry
