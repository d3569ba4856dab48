import DogRegistry.Proofs.Index.Descent
import DogRegistry.Proofs.Index.Halves

/-!
# Insertion into a tree in order

An insertion finds every part that it needs, leaves the tree in order, and adds one row identifier
to the group of its key.  This holds with and without splits: what becomes of a child is a row of
one or two nodes that covers the same piece of the range.

## Main definitions

* `Growth.separators`, `Growth.nodes` — what an insertion makes of a node, as a row of nodes.
* `Growth.WellFormed` — the row covers the range of the node.

## Main results

* `Node.WellFormed.split?_spec` — a node with at least two keys has two halves in order.
* `Focus.exists_replaceChild` — what became of a child can stand in its place.
* `Node.WellFormed.insertInLeaf?_spec`, `Node.WellFormed.insertSplitting?_spec` — insertion below a
  node, without splits and with them.
* `Tree.insert?_spec` — insertion into a tree.
-/

namespace DogRegistry

variable {lower upper : Option String} {key : String} {levels order : Nat}

/-! ### What becomes of a node -/

namespace Growth

/-- The keys between the nodes. -/
def separators : Growth → List String
  | .whole _ => []
  | .halves s => [s.separator]

/-- The nodes from left to right. -/
def nodes : Growth → List Node
  | .whole n => [n]
  | .halves s => [s.left, s.right]

/-- The groups of the nodes. -/
def entries (g : Growth) : List (String × List RowId) :=
  g.nodes.flatMap Node.entries

/-- `g.WellFormed levels lower upper` says the nodes are in order and cover the range, and a
separator lies above the beginning of the range. -/
structure WellFormed (g : Growth) (levels : Nat) (lower upper : Option String) : Prop where
  /-- The nodes cover the range. -/
  nodes : Separated (Node.WellFormed levels) lower upper g.separators g.nodes
  /-- A separator lies strictly within the range. -/
  separators : ∀ k ∈ g.separators, inRange lower upper k ∧ ∀ a ∈ lower, a < k

@[simp] theorem entries_whole (n : Node) : (whole n).entries = n.entries := by
  rw [entries, nodes, List.flatMap_singleton]

@[simp] theorem entries_halves (s : Split) :
    (halves s).entries = s.left.entries ++ s.right.entries := by
  simp [entries, nodes]

theorem WellFormed.whole {n : Node} (h : n.WellFormed levels lower upper) :
    (Growth.whole n).WellFormed levels lower upper :=
  ⟨.last h, fun _ hk => absurd hk List.not_mem_nil⟩

end Growth

/-! ### Halves of a node -/

namespace Node

namespace WellFormed

/-- A leaf with at least two keys has two halves, which cover its range and hold its groups. -/
theorem split?_leaf_spec {l : Leaf} (h : l.WellFormed lower upper) (hn : 2 ≤ l.keys.length) :
    ∃ s, (leaf l).split? = some s ∧ (Growth.halves s).WellFormed 0 lower upper ∧
      (Growth.halves s).entries = l.entries := by
  obtain ⟨s, hs, hhalves⟩ := (Splittable.leaf hn h.length_values).exists_hasHalves
  refine ⟨s, hs, ?_, by rw [Growth.entries_halves, hhalves.entries_append, entries_leaf]⟩
  have hleft := hhalves.keys_left_ne_nil hn
  cases hhalves with
  | leaf hvs _ _ =>
    obtain ⟨hlower, hupper⟩ := h.cut hvs
    refine ⟨.cons hlower (.last hupper), fun k hk => ?_⟩
    obtain rfl := List.mem_singleton.1 hk
    exact h.keys.strictly_within hleft

/-- An internal node with at least two keys has two halves, which cover its range and hold its
groups.  The separator between them is kept by neither. -/
theorem split?_internal_spec {ks : List String} {cs : List Node} (hks : KeysWithin lower upper ks)
    (hcs : Separated (Node.WellFormed levels) lower upper ks cs) (hn : 2 ≤ ks.length) :
    ∃ s, (internal ks cs).split? = some s ∧
      (Growth.halves s).WellFormed (levels + 1) lower upper ∧
      (Growth.halves s).entries = (internal ks cs).entries := by
  obtain ⟨s, hs, hhalves⟩ :=
    (Splittable.internal (Nat.le_of_succ_le hn) hcs.length_eq).exists_hasHalves
  refine ⟨s, hs, ?_, by rw [Growth.entries_halves, hhalves.entries_append]⟩
  have hleft := hhalves.keys_left_ne_nil hn
  cases hhalves with
  | internal hlength _ _ =>
    -- the child before the separator is the last of the lower half
    obtain ⟨hlower, hupper⟩ := (Separated.append_iff hlength).1 hcs
    refine ⟨.cons ⟨hks.left_of_append, hlower⟩ (.last ⟨hks.right_of_append.tail, hupper⟩),
      fun k hk => ?_⟩
    obtain rfl := List.mem_singleton.1 hk
    exact hks.strictly_within hleft

/-- A node with at least two keys has two halves, which cover its range and hold its groups. -/
theorem split?_spec {n : Node} (h : n.WellFormed levels lower upper) (hn : 2 ≤ n.keys.length) :
    ∃ s, n.split? = some s ∧ (Growth.halves s).WellFormed levels lower upper ∧
      (Growth.halves s).entries = n.entries := by
  induction h using WellFormed.induction with
  | leaf hl =>
    rw [entries_leaf]
    exact split?_leaf_spec hl hn
  | internal hks hcs _ => exact split?_internal_spec hks hcs hn

/-- A node is split once it is full, and an order of at least two leaves no half empty. -/
theorem splitIfFull?_spec {n : Node} (h : n.WellFormed levels lower upper) (ho : 2 ≤ order) :
    ∃ g, n.splitIfFull? order = some g ∧ g.WellFormed levels lower upper ∧
      g.entries = n.entries := by
  rw [splitIfFull?]
  by_cases hfull : n.keys.length < order
  · rw [if_pos hfull]
    exact ⟨_, rfl, .whole h, Growth.entries_whole n⟩
  · rw [if_neg hfull]
    obtain ⟨s, hs, hwf, hentries⟩ := h.split?_spec (Nat.le_trans ho (Nat.not_lt.1 hfull))
    exact ⟨_, by rw [hs, Option.map_some], hwf, hentries⟩

end WellFormed

end Node

/-! ### What becomes of a child -/

namespace Node

theorem replaceChild?_append (as bs : List String) (left right : List Node)
    (hlen : left.length = as.length) (c : Node) (g : Growth) :
    replaceChild? as.length (as ++ bs) (left ++ c :: right) g =
      some (.internal (as ++ (g.separators ++ bs)) (left ++ (g.nodes ++ right))) := by
  cases g with
  | whole c' => rw [replaceChild?, ← hlen, set_children]; rfl
  | halves s =>
    rw [replaceChild?, ← hlen, set_children, hlen, insertSplit?_append hlen]
    rfl

theorem insertInLeafAt?_eq (key : String) (id : RowId) (i : Nat) (cs : List Node) :
    insertInLeafAt? key id i cs =
      cs[i]?.bind fun c => (insertInLeaf? key id c).map fun c' => cs.set i c' := by
  induction cs generalizing i with
  | nil => rw [insertInLeafAt?]; rfl
  | cons c cs ih =>
    cases i with
    | zero => rw [insertInLeafAt?]; rfl
    | succ i =>
      rw [insertInLeafAt?, ih, List.getElem?_cons_succ]
      cases cs[i]? with
      | none => rfl
      | some c' => simp [Function.comp_def]

theorem insertSplittingAt?_eq (order : Nat) (key : String) (id : RowId) (i : Nat) (cs : List Node) :
    insertSplittingAt? order key id i cs = cs[i]?.bind (insertSplitting? order key id) := by
  induction cs generalizing i with
  | nil => rw [insertSplittingAt?]; rfl
  | cons c cs ih =>
    cases i with
    | zero => rw [insertSplittingAt?]; rfl
    | succ i => rw [insertSplittingAt?, ih, List.getElem?_cons_succ]

end Node

namespace Growth.WellFormed

variable {g : Growth}

/-- The separators of a node with the new ones among them. -/
theorem keysWithin_insert {P : Option String → Option String → Node → Prop} {ks : List String}
    {cs : List Node} (f : Focus P lower upper key ks cs) (hks : KeysWithin lower upper ks)
    (hg : g.WellFormed levels f.lo f.hi) :
    KeysWithin lower upper (f.before ++ (g.separators ++ f.after)) := by
  rw [f.keys_eq] at hks
  cases g with
  | whole c => exact hks
  | halves s =>
    obtain ⟨hrange, habove⟩ := hg.separators s.separator (List.mem_singleton_self _)
    refine hks.insert (f.widen _ hrange) ?_ ?_
    · intro a ha
      obtain ⟨lo, hlo, hle⟩ := f.before_le a ha
      exact lt_of_le_of_lt hle (habove lo hlo)
    · intro b hb
      obtain ⟨hi, hhi, hle⟩ := f.le_after b hb
      exact lt_of_lt_of_le ((inRange_iff.1 hrange).2 hi hhi) hle

end Growth.WellFormed

namespace Focus

variable {ks : List String} {cs : List Node} {id : RowId}

/-- What became of the child that covers a key stands in its place. -/
theorem replaceChild?_eq {P : Option String → Option String → Node → Prop}
    (f : Focus P lower upper key ks cs) (g : Growth) :
    Node.replaceChild? (childIndex ks key) ks cs g =
      some (.internal (f.before ++ (g.separators ++ f.after))
        (f.left ++ (g.nodes ++ f.right))) := by
  have := Node.replaceChild?_append f.before f.after f.left f.right f.length_left f.child g
  rwa [← f.keys_eq, ← f.children_eq, ← f.childIndex_eq] at this

/-- Then the node above it is in order again. -/
theorem exists_replaceChild (f : Focus (Node.WellFormed levels) lower upper key ks cs)
    (hks : KeysWithin lower upper ks) {g : Growth} (hg : g.WellFormed levels f.lo f.hi)
    (hentries : g.entries = addUnder key id f.child.entries) :
    ∃ n, Node.replaceChild? (childIndex ks key) ks cs g = some n ∧
      n.WellFormed (levels + 1) lower upper ∧
      n.entries = addUnder key id (Node.internal ks cs).entries := by
  refine ⟨.internal (f.before ++ (g.separators ++ f.after)) (f.left ++ (g.nodes ++ f.right)),
    f.replaceChild?_eq g, ⟨hg.keysWithin_insert f hks, f.replace _ _ hg.nodes⟩, ?_⟩
  rw [Node.entries_internal, Node.entries_internal, f.flatMap_children, List.flatMap_append,
    List.flatMap_append, addUnder_append_of_lt f.lt_of_mem_left,
    addUnder_append_of_gt f.lt_of_mem_right, ← hentries]
  rfl

end Focus

/-! ### Insertion below a node -/

namespace Node.WellFormed

variable {n : Node}

/-- Without splits a node stays one node. -/
theorem insertInLeaf?_spec (h : n.WellFormed levels lower upper) (hkey : inRange lower upper key)
    (id : RowId) :
    ∃ n', n.insertInLeaf? key id = some n' ∧ n'.WellFormed levels lower upper ∧
      n'.entries = addUnder key id n.entries := by
  induction h using WellFormed.induction with
  | leaf hl =>
    obtain ⟨l', hl', hwf, hentries⟩ := hl.insert?_spec hkey id
    refine ⟨.leaf l', by rw [insertInLeaf?, hl', Option.map_some], hwf, ?_⟩
    rw [entries_leaf, entries_leaf, hentries]
  | internal hks hcs ih =>
    obtain ⟨f⟩ := hcs.exists_focus hks hkey
    obtain ⟨c', hc', hwf, hentries⟩ := ih f.property f.covers
    obtain ⟨n', hn', hwf', hentries'⟩ := f.exists_replaceChild hks (.whole hwf)
      ((Growth.entries_whole c').trans hentries)
    refine ⟨n', ?_, hwf', hentries'⟩
    rw [insertInLeaf?, insertInLeafAt?_eq, f.getElem?_children, Option.bind_some, hc']
    exact hn'

/-- With splits a node stays one node or becomes two halves. -/
theorem insertSplitting?_spec (h : n.WellFormed levels lower upper) (ho : 2 ≤ order)
    (hkey : inRange lower upper key) (id : RowId) :
    ∃ g, n.insertSplitting? order key id = some g ∧ g.WellFormed levels lower upper ∧
      g.entries = addUnder key id n.entries := by
  induction h using WellFormed.induction with
  | leaf hl =>
    obtain ⟨l', hl', hwf, hentries⟩ := hl.insert?_spec hkey id
    obtain ⟨g, hg, hgwf, hgentries⟩ := splitIfFull?_spec (wellFormed_leaf.2 hwf) ho
    refine ⟨g, ?_, hgwf, ?_⟩
    · rw [insertSplitting?, hl']
      exact hg
    · rw [hgentries, entries_leaf, entries_leaf, hentries]
  | internal hks hcs ih =>
    obtain ⟨f⟩ := hcs.exists_focus hks hkey
    obtain ⟨g, hg, hwf, hentries⟩ := ih f.property f.covers
    obtain ⟨n', hn', hwf', hentries'⟩ := f.exists_replaceChild hks hwf hentries
    rw [insertSplitting?, insertSplittingAt?_eq, f.getElem?_children, Option.bind_some, hg]
    cases g with
    | whole c =>
      -- a node whose child has not been split is left as it is, however many keys it has
      refine ⟨.whole n', ?_, .whole hwf', ?_⟩
      · simp only [Option.bind_eq_bind, Option.bind_some, hn', Option.map_some]
      · rw [Growth.entries_whole, hentries']
    | halves s =>
      obtain ⟨g', hg', hgwf, hgentries⟩ := hwf'.splitIfFull?_spec ho
      refine ⟨g', ?_, hgwf, hgentries.trans hentries'⟩
      simp only [Option.bind_eq_bind, Option.bind_some, hn']
      exact hg'

end Node.WellFormed

/-! ### Insertion into a tree -/

/-- The root of the tree that an insertion leaves behind: a split root is put below a new one. -/
def Growth.root : Growth → Node
  | .whole n => n
  | .halves s => s.join

theorem Growth.WellFormed.root {g : Growth} (h : g.WellFormed levels lower upper) :
    ∃ levels', g.root.WellFormed levels' lower upper := by
  cases g with
  | whole n =>
    cases h.nodes with
    | last child => exact ⟨levels, child⟩
  | halves s =>
    -- the new root has one more level than its halves
    refine ⟨levels + 1, ⟨List.pairwise_singleton _ _, ?_⟩, h.nodes⟩
    intro k hk
    exact (h.separators k hk).1

theorem Growth.entries_root (g : Growth) : g.root.entries = g.entries := by
  cases g with
  | whole n => rw [entries_whole, root]
  | halves s => rw [root, Split.join, Node.entries_internal, entries, nodes]

namespace Tree

/-- `t.WellFormed` says the root of `t` is in order and may hold any key. -/
def WellFormed (t : Tree) : Prop :=
  ∃ levels, t.root.WellFormed levels none none

theorem wellFormed_empty (config : IndexConfig) : (empty config).WellFormed :=
  ⟨0, Leaf.wellFormed_empty⟩

/-- Under the policy that splits the root alone, the root of the tree is what a split makes of it
after an insertion without splits. -/
theorem insert?_of_rootOnly {t : Tree} {id : RowId} {n : Node} {g : Growth}
    (hpolicy : t.config.policy = .rootOnly) (hn : t.root.insertInLeaf? key id = some n)
    (hg : n.splitIfFull? t.config.order = some g) :
    t.insert? key id = some { t with root := g.root } := by
  rw [insert?, hpolicy]
  simp only [hn, hg, Option.bind_eq_bind, Option.bind_some]
  cases g <;> rfl

/-- Under the recursive policy what becomes of the root is the root of the tree. -/
theorem insert?_of_recursive {t : Tree} {id : RowId} {g : Growth}
    (hpolicy : t.config.policy = .recursive)
    (hg : t.root.insertSplitting? t.config.order key id = some g) :
    t.insert? key id = some { t with root := g.root } := by
  rw [insert?, hpolicy]
  simp only [hg, Option.bind_eq_bind, Option.bind_some]
  cases g <;> rfl

/-- An insertion finds all that it needs, leaves the tree in order and adds to the group of its
key. -/
theorem insert?_spec {t : Tree} (h : t.WellFormed) (hv : t.config.Valid) (key : String)
    (id : RowId) :
    ∃ t', t.insert? key id = some t' ∧ t'.config = t.config ∧ t'.WellFormed ∧
      t'.entries = addUnder key id t.entries := by
  obtain ⟨levels, hroot⟩ := h
  have ho : 2 ≤ t.config.order := Nat.le_trans (by decide) hv
  -- either policy makes of the root one node or two halves, and these become the new root
  suffices hgrowth : ∃ g : Growth, t.insert? key id = some { t with root := g.root } ∧
      g.WellFormed levels none none ∧ g.entries = addUnder key id t.entries by
    obtain ⟨g, hg, hwf, hentries⟩ := hgrowth
    exact ⟨_, hg, rfl, hwf.root, g.entries_root.trans hentries⟩
  cases hpolicy : t.config.policy with
  | rootOnly =>
    obtain ⟨n, hn, hwf, hentries⟩ := hroot.insertInLeaf?_spec (inRange_none_none key) id
    obtain ⟨g, hg, hgwf, hgentries⟩ := hwf.splitIfFull?_spec ho
    exact ⟨g, insert?_of_rootOnly hpolicy hn hg, hgwf, hgentries.trans hentries⟩
  | recursive =>
    obtain ⟨g, hg, hwf, hentries⟩ := hroot.insertSplitting?_spec ho (inRange_none_none key) id
    exact ⟨g, insert?_of_recursive hpolicy hg, hwf, hentries⟩

end Tree

end DogRegistry
