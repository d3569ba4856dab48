import DogRegistry.Proofs.Index.Occupancy
import Mathlib.Order.Bounds.Basic

/-!
# The separators are first keys

A leaf that is split copies its middle key up, and an internal node that is split moves one to
another level.  Read from left to right the separators stay the same in the second case, so every
one of them was once the first key of a leaf.  As keys are never removed and no key below a
separator is placed to the right of it, it still is.

## Main definitions

* `Node.separators` — the keys of all internal nodes, from left to right.
* `Node.SeparatorsExact` — every key of the node is the least one below the child to its right.
* `Node.GrowsInto` — what insertion may do to separators and leaves.
* `Node.Anchored lower` — the separators are stored, and no leaf is empty.

## Main results

* `Node.WellFormed.growsInto_of_insertInLeaf?`, `Node.WellFormed.growsInto_of_insertSplitting?` —
  insertion below a node makes no separator that is not a stored key, and no empty leaf.
* `Node.Anchored.separated` — what is stored below a node is stored below the right child.
* `Node.WellFormed.map_head?_leaves` — the first keys of the leaves are the separators in order.
* `Tree.separatorsExact_ofEntries` — so they are in a tree filled by insertions.
-/

namespace DogRegistry

variable {lower upper : Option String} {key : String} {id : RowId} {levels order : Nat}

/-! ### The separators in order -/

namespace Node

mutual

/-- The keys of all internal nodes, from left to right: each stands between what lies below the two
children that it separates. -/
def separators : Node → List String
  | .leaf _ => []
  | .internal ks cs => separatorsBetween ks cs

/-- The separators of some nodes, with the keys `ks` between them. -/
def separatorsBetween : List String → List Node → List String
  | ks, [] => ks
  | [], c :: cs => separators c ++ separatorsBetween [] cs
  | k :: ks, c :: cs => separators c ++ k :: separatorsBetween ks cs

end

@[simp] theorem separators_leaf (l : Leaf) : (Node.leaf l).separators = [] := by
  rw [separators]

@[simp] theorem separators_internal (ks : List String) (cs : List Node) :
    (Node.internal ks cs).separators = separatorsBetween ks cs := by
  rw [separators]

@[simp] theorem mem_separatorsBetween {k : String} {ks : List String} {cs : List Node} :
    k ∈ separatorsBetween ks cs ↔ k ∈ ks ∨ ∃ c ∈ cs, k ∈ c.separators := by
  induction cs generalizing ks with
  | nil => simp [separatorsBetween]
  | cons c cs ih =>
    cases ks with
    | nil => simp [separatorsBetween, ih]
    | cons a ks =>
      simp only [separatorsBetween, List.mem_append, List.mem_cons, ih]
      grind

/-- `n.SeparatorsExact` says that every key of an internal node is the least of all keys below the
child behind it. -/
def SeparatorsExact : Node → Prop
  | .leaf _ => True
  | .internal ks cs =>
    ∀ i k, ks[i]? = some k → ∃ c, cs[i + 1]? = some c ∧ IsLeast {x | x ∈ c.allKeys} k

end Node

namespace Growth

theorem leaves_root (g : Growth) : g.root.leaves = g.nodes.flatMap Node.leaves := by
  cases g <;> simp [root, Split.join, nodes]

theorem allKeys_root (g : Growth) : g.root.allKeys = g.nodes.flatMap Node.allKeys := by
  cases g <;> simp [root, Split.join, nodes]

theorem mem_separators_root {g : Growth} {k : String} :
    k ∈ g.root.separators ↔ k ∈ g.separators ∨ ∃ c ∈ g.nodes, k ∈ c.separators := by
  cases g <;> simp [root, Split.join, separators, nodes]

end Growth

/-! ### What insertion does to them -/

namespace Node

/-- `n.GrowsInto n'` says that `n'` has no separators but those of `n` and keys that it stores, and
no empty leaves but those that lay below `n`. -/
structure GrowsInto (n n' : Node) : Prop where
  /-- A new separator is a stored key. -/
  separators : ∀ k ∈ n'.separators, k ∈ n.separators ∨ k ∈ n'.allKeys
  /-- A new leaf is not empty. -/
  leaves : ∀ l ∈ n'.leaves, l.keys ≠ [] ∨ l ∈ n.leaves ∧ n.isLeaf = false

theorem growsInto_leaf {n : Node} {l : Leaf} (hl : l.keys ≠ []) : n.GrowsInto (.leaf l) := by
  refine ⟨fun k hk => ?_, fun l' hl' => ?_⟩
  · rw [separators_leaf] at hk
    exact absurd hk List.not_mem_nil
  · rw [leaves_leaf, List.mem_singleton] at hl'
    exact .inl (hl' ▸ hl)

/-- The halves of a leaf that has two keys are not empty, and the separator is the first key of the
upper one. -/
theorem growsInto_of_split?_leaf {n : Node} {l : Leaf} {s : Split}
    (hs : (Node.leaf l).split? = some s) (hl : 2 ≤ l.keys.length) : n.GrowsInto s.join := by
  rw [split?] at hs
  split at hs
  next => exact absurd hs (by simp)
  next separator upper hupper =>
    split at hs
    next =>
      obtain rfl := Option.some.inj hs
      have hlower : l.keys.take (l.keys.length / 2) ≠ [] := by
        rw [← List.length_pos_iff, List.length_take]
        omega
      constructor
      · intro k hk
        obtain rfl : k = separator := by simpa [Split.join] using hk
        exact .inr (by simp [Split.join, hupper])
      · intro l' hl'
        refine .inl ?_
        simp only [Split.join, leaves_internal, List.flatMap_cons, List.flatMap_nil, leaves_leaf,
          List.append_nil, List.cons_append, List.nil_append, List.mem_cons, List.not_mem_nil,
          or_false] at hl'
        rcases hl' with rfl | rfl
        · exact hlower
        · rw [hupper]
          exact List.cons_ne_nil separator upper
    next => exact absurd hs (by simp)

/-- The halves of an internal node have its leaves, and together with the key between them its
separators. -/
theorem join_of_split?_internal {ks : List String} {cs : List Node} {s : Split}
    (hs : (Node.internal ks cs).split? = some s) :
    s.join.leaves = (Node.internal ks cs).leaves ∧
      ∀ k, k ∈ s.join.separators ↔ k ∈ (Node.internal ks cs).separators := by
  rw [split?] at hs
  split at hs
  next => exact absurd hs (by simp)
  next separator upper hupper =>
    split at hs
    next =>
      obtain rfl := Option.some.inj hs
      constructor
      · simp only [Split.join, leaves_internal, List.flatMap_cons, List.flatMap_nil,
          List.append_nil, ← List.flatMap_append, List.take_append_drop]
      · intro k
        have hkeys : k ∈ ks ↔ k ∈ ks.take (ks.length / 2) ∨ k = separator ∨ k ∈ upper := by
          rw [← List.mem_cons, ← hupper, ← List.mem_append, List.take_append_drop]
        have hchildren (c : Node) : c ∈ cs ↔
            c ∈ cs.take (ks.length / 2 + 1) ∨ c ∈ cs.drop (ks.length / 2 + 1) := by
          rw [← List.mem_append, List.take_append_drop]
        simp only [Split.join, separators_internal, mem_separatorsBetween, List.mem_cons,
          List.not_mem_nil, or_false, exists_eq_or_imp, exists_eq_left, hkeys, hchildren]
        grind
    next => exact absurd hs (by simp)

/-- A split adds nothing but the separator of a leaf. -/
theorem GrowsInto.splitIfFull? {n n' : Node} {g : Growth} (h : n.GrowsInto n') (ho : 2 ≤ order)
    (hg : n'.splitIfFull? order = some g) : n.GrowsInto g.root := by
  rw [Node.splitIfFull?] at hg
  split at hg
  next =>
    obtain rfl := Option.some.inj hg
    exact h
  next hfull =>
    obtain ⟨s, hs, rfl⟩ := Option.map_eq_some_iff.1 hg
    have htwo : 2 ≤ n'.keys.length := ho.trans (Nat.not_lt.1 hfull)
    cases n' with
    | leaf l => exact growsInto_of_split?_leaf hs htwo
    | internal ks cs =>
      obtain ⟨hleaves, hseparators⟩ := join_of_split?_internal hs
      refine ⟨fun k hk => ?_, fun l hl => ?_⟩
      · rw [Growth.root, allKeys, hleaves]
        exact h.separators k ((hseparators k).1 hk)
      · rw [Growth.root, hleaves] at hl
        exact h.leaves l hl

end Node

namespace Focus

variable {P : Option String → Option String → Node → Prop} {ks : List String} {cs : List Node}

/-- What became of a child changes nothing but what lies below that child. -/
theorem growsInto (f : Focus P lower upper key ks cs) {g : Growth}
    (h : f.child.GrowsInto g.root) :
    (Node.internal ks cs).GrowsInto
      (.internal (f.before ++ (g.separators ++ f.after)) (f.left ++ (g.nodes ++ f.right))) := by
  constructor
  · intro k hk
    have hkeys : k ∈ ks ↔ k ∈ f.before ∨ k ∈ f.after := by
      rw [← List.mem_append, ← f.keys_eq]
    have hchildren (c : Node) : c ∈ cs ↔ c ∈ f.left ∨ c = f.child ∨ c ∈ f.right := by
      rw [← List.mem_cons, ← List.mem_append, ← f.children_eq]
    -- a separator is an old one beside the child, or one of those that the child has now
    have hcases : k ∈ (Node.internal ks cs).separators ∨ k ∈ g.root.separators := by
      rw [Growth.mem_separators_root]
      simp only [Node.separators_internal, Node.mem_separatorsBetween, List.mem_append, hkeys,
        hchildren] at hk ⊢
      grind
    rcases hcases with hk | hk
    · exact .inl hk
    · rcases h.separators k hk with hk | hk
      · refine .inl ?_
        rw [Node.separators_internal, Node.mem_separatorsBetween]
        exact .inr ⟨f.child, (hchildren f.child).2 (.inr (.inl rfl)), hk⟩
      · refine .inr ?_
        rw [Node.allKeys_internal, List.flatMap_append, List.flatMap_append, ← g.allKeys_root]
        exact List.mem_append_right _ (List.mem_append_left _ hk)
  · intro l hl
    rw [Node.leaves_internal, List.flatMap_append, List.flatMap_append, ← g.leaves_root,
      List.mem_append, List.mem_append] at hl
    rw [Node.leaves_internal, f.flatMap_children, List.mem_append, List.mem_append]
    rcases hl with hl | hl | hl
    · exact .inr ⟨.inl hl, rfl⟩
    · rcases h.leaves l hl with hl | ⟨hl, -⟩
      · exact .inl hl
      · exact .inr ⟨.inr (.inl hl), rfl⟩
    · exact .inr ⟨.inr (.inr hl), rfl⟩

end Focus

/-- A leaf holds the key that was inserted into it. -/
theorem Leaf.WellFormed.keys_ne_nil_of_insert? {l l' : Leaf} (h : l.WellFormed lower upper)
    (hkey : inRange lower upper key) (hl' : l.insert? key id = some l') : l'.keys ≠ [] := by
  obtain ⟨l'', hl'', hwf, hentries⟩ := h.insert?_spec hkey id
  obtain rfl := Option.some.inj (hl'.symm.trans hl'')
  have hmem : key ∈ l'.keys := by
    rw [← hwf.map_fst_entries, hentries, mem_keys_addUnder]
    exact .inl rfl
  exact List.ne_nil_of_mem hmem

namespace Node.WellFormed

variable {n : Node}

theorem growsInto_of_insertInLeaf? (h : n.WellFormed levels lower upper)
    (hkey : inRange lower upper key) {n' : Node} (hn' : n.insertInLeaf? key id = some n') :
    n.GrowsInto n' := by
  induction h using WellFormed.induction generalizing n' with
  | leaf hl =>
    rw [insertInLeaf?] at hn'
    obtain ⟨l', hl', rfl⟩ := Option.map_eq_some_iff.1 hn'
    exact growsInto_leaf (hl.keys_ne_nil_of_insert? hkey hl')
  | internal hks hcs ih =>
    obtain ⟨f⟩ := hcs.exists_focus hks hkey
    rw [insertInLeaf?, insertInLeafAt?_eq, f.getElem?_children, Option.bind_some] at hn'
    obtain ⟨cs', hcs', rfl⟩ := Option.map_eq_some_iff.1 hn'
    obtain ⟨c', hc', rfl⟩ := Option.map_eq_some_iff.1 hcs'
    have hchild : f.child.GrowsInto c' := ih f.property f.covers hc'
    have hnode := f.replaceChild?_eq (.whole c')
    rw [replaceChild?, Option.some_inj] at hnode
    rw [hnode]
    exact f.growsInto hchild

theorem growsInto_of_insertSplitting? (h : n.WellFormed levels lower upper) (ho : 2 ≤ order)
    (hkey : inRange lower upper key) {g : Growth}
    (hg : n.insertSplitting? order key id = some g) : n.GrowsInto g.root := by
  induction h using WellFormed.induction generalizing g with
  | leaf hl =>
    rw [insertSplitting?] at hg
    obtain ⟨l', hl', hg⟩ := Option.bind_eq_some_iff.1 hg
    exact (growsInto_leaf (hl.keys_ne_nil_of_insert? hkey hl')).splitIfFull? ho hg
  | internal hks hcs ih =>
    obtain ⟨f⟩ := hcs.exists_focus hks hkey
    rw [insertSplitting?, insertSplittingAt?_eq, f.getElem?_children, Option.bind_some] at hg
    obtain ⟨g', hg', hg⟩ := Option.bind_eq_some_iff.1 hg
    have hchild : f.child.GrowsInto g'.root := ih f.property f.covers hg'
    cases g' with
    | whole c' =>
      obtain ⟨n', hn', rfl⟩ := Option.map_eq_some_iff.1 hg
      rw [f.replaceChild?_eq] at hn'
      obtain rfl := Option.some.inj hn'
      exact f.growsInto hchild
    | halves s =>
      obtain ⟨n', hn', hg⟩ := Option.bind_eq_some_iff.1 hg
      rw [f.replaceChild?_eq] at hn'
      obtain rfl := Option.some.inj hn'
      exact (f.growsInto hchild).splitIfFull? ho hg

end Node.WellFormed

/-! ### Separators that are stored -/

namespace Node

/-- `n.Anchored lower` says that the beginning of the range of `n` and all of its separators are
keys that are stored below it, and that no leaf below it is empty. -/
structure Anchored (lower : Option String) (n : Node) : Prop where
  /-- The range begins with a stored key. -/
  lower_stored : ∀ a ∈ lower, a ∈ n.allKeys
  /-- The separators are stored keys. -/
  separators_stored : ∀ k ∈ n.separators, k ∈ n.allKeys
  /-- Every leaf has a key. -/
  leaves_ne_nil : ∀ l ∈ n.leaves, l.keys ≠ []

variable {n : Node} {ks : List String} {cs : List Node}

/-- The separators of a node lie in its range. -/
theorem WellFormed.inRange_separators (h : n.WellFormed levels lower upper) :
    ∀ k ∈ n.separators, inRange lower upper k := by
  induction h using WellFormed.induction with
  | leaf _ =>
    intro k hk
    rw [separators_leaf] at hk
    exact absurd hk List.not_mem_nil
  | internal hks hcs ih =>
    intro k hk
    rw [separators_internal, mem_separatorsBetween] at hk
    rcases hk with hk | ⟨c, hc, hk⟩
    · exact hks.within k hk
    · obtain ⟨lo, hi, hwf, hwiden, -⟩ := hcs.exists_of_mem hks hc
      exact hwiden k (ih hwf k hk)

theorem WellFormed.leaves_ne_nil (h : n.WellFormed levels lower upper) : n.leaves ≠ [] := by
  induction h using WellFormed.induction with
  | leaf _ => simp
  | internal _ hcs ih =>
    cases hcs with
    | last child => simpa using ih child
    | cons child _ => simp [ih child]

/-- There is a key below a node whose leaves are not empty. -/
theorem WellFormed.exists_mem_allKeys (h : n.WellFormed levels lower upper)
    (hne : ∀ l ∈ n.leaves, l.keys ≠ []) : ∃ k, k ∈ n.allKeys := by
  obtain ⟨l, hl⟩ := List.exists_mem_of_ne_nil n.leaves h.leaves_ne_nil
  obtain ⟨k, hk⟩ := List.exists_mem_of_ne_nil l.keys (hne l hl)
  exact ⟨k, List.mem_flatMap_of_mem hl hk⟩

/-- Of the keys stored below a node the first child has those below the first separator, and the
other children have the others. -/
theorem mem_allKeys_of_separated {k x : String} {c : Node}
    (hc : c.WellFormed levels lower (some k))
    (hcs : (internal ks cs).WellFormed (levels + 1) (some k) upper)
    (hx : x ∈ (internal (k :: ks) (c :: cs)).allKeys) :
    (x < k → x ∈ c.allKeys) ∧ (k ≤ x → x ∈ (internal ks cs).allKeys) := by
  rw [allKeys_internal, List.flatMap_cons, ← allKeys_internal ks, List.mem_append] at hx
  constructor
  · intro hlt
    refine hx.resolve_right fun hright => ?_
    exact absurd hlt (not_lt.2 (le_of_inRange (hcs.keysWithin_allKeys.within x hright)))
  · intro hle
    refine hx.resolve_left fun hleft => ?_
    exact absurd hle (not_le.2 (lt_of_inRange (hc.keysWithin_allKeys.within x hleft)))

/-- What is stored below a node is stored below the child whose range it lies in, so every child is
anchored where the node is. -/
theorem Anchored.separated (h : (internal ks cs).Anchored lower)
    (hks : KeysWithin lower upper ks)
    (hcs : Separated (Node.WellFormed levels) lower upper ks cs) :
    Separated (fun lo hi c => c.WellFormed levels lo hi ∧ c.Anchored lo) lower upper ks cs := by
  induction hcs with
  | @last lower upper c child =>
    obtain ⟨hlower, hseparators, hleaves⟩ := h
    simp only [allKeys_internal, separators_internal, leaves_internal, List.flatMap_cons,
      List.flatMap_nil, List.append_nil, separatorsBetween] at hlower hseparators hleaves
    exact .last ⟨child, hlower, hseparators, hleaves⟩
  | @cons lower upper k ks c cs child others ih =>
    obtain ⟨hlower, hseparators, hleaves⟩ := h
    have hothers : (internal ks cs).WellFormed (levels + 1) (some k) upper := ⟨hks.tail, others⟩
    have hside {x : String} (hx : x ∈ (internal (k :: ks) (c :: cs)).allKeys) :=
      mem_allKeys_of_separated child hothers hx
    simp only [separators_internal, mem_separatorsBetween] at hseparators
    rw [leaves_internal, List.flatMap_cons, ← leaves_internal ks, List.forall_mem_append]
      at hleaves
    have hleft : c.Anchored lower := by
      refine ⟨fun a ha => ?_, fun a ha => ?_, hleaves.1⟩
      · -- the child has a key, so its range does not begin at the separator behind it
        obtain ⟨x, hx⟩ := child.exists_mem_allKeys hleaves.1
        have hrange := child.keysWithin_allKeys.within x hx
        have hlt : a < k := lt_of_le_of_lt ((inRange_iff.1 hrange).1 a ha) (lt_of_inRange hrange)
        exact (hside (hlower a ha)).1 hlt
      · have hstored := hseparators a (.inr ⟨c, List.mem_cons_self, ha⟩)
        exact (hside hstored).1 (lt_of_inRange (child.inRange_separators a ha))
    have hright : (internal ks cs).Anchored (some k) := by
      refine ⟨fun a ha => ?_, fun a ha => ?_, hleaves.2⟩
      · obtain rfl := Option.some_inj.1 ha
        exact (hside (hseparators k (.inl List.mem_cons_self))).2 (le_refl k)
      · have hle : k ≤ a := le_of_inRange (hothers.inRange_separators a ha)
        rw [separators_internal, mem_separatorsBetween] at ha
        have hmem : a ∈ k :: ks ∨ ∃ c' ∈ c :: cs, a ∈ c'.separators :=
          ha.imp (List.mem_cons_of_mem k) fun ⟨c', hc', ha⟩ =>
            ⟨c', List.mem_cons_of_mem c hc', ha⟩
        exact (hside (hseparators a hmem)).2 hle
    exact .cons ⟨child, hleft⟩ (ih hright hks.tail)

end Node

/-! ### Separators and first keys -/

/-- The first of ascending keys in a range is the one that the range begins with. -/
theorem KeysWithin.head?_eq {ks : List String} (h : KeysWithin (some key) upper ks)
    (hkey : key ∈ ks) : ks.head? = some key := by
  cases ks with
  | nil => exact absurd hkey List.not_mem_nil
  | cons k ks =>
    rcases List.mem_cons.1 hkey with rfl | hmem
    · rfl
    · have hlt : k < key := (List.pairwise_cons.1 h.ascending).1 key hmem
      exact absurd hlt (not_lt.2 (le_of_inRange (h.within k List.mem_cons_self)))

namespace Separated

variable {P : Option String → Option String → Node → Prop} {ks : List String} {cs : List Node}

theorem exists_head? (h : Separated P lower upper ks cs) :
    ∃ c hi, cs.head? = some c ∧ P lower hi c := by
  cases h with
  | last child => exact ⟨_, _, rfl, child⟩
  | cons child _ => exact ⟨_, _, rfl, child⟩

/-- The child behind a separator covers a range that begins with it. -/
theorem exists_getElem?_succ (h : Separated P lower upper ks cs) {i : Nat} {k : String}
    (hi : ks[i]? = some k) : ∃ c hi, cs[i + 1]? = some c ∧ P (some k) hi c := by
  induction h generalizing i with
  | last _ => exact absurd hi (by simp)
  | @cons lower upper k' ks c cs child others ih =>
    rw [List.getElem?_cons_succ]
    cases i with
    | zero =>
      obtain rfl : k' = k := by simpa using hi
      obtain ⟨c', hi', hhead, hP⟩ := others.exists_head?
      exact ⟨c', hi', by rwa [← List.head?_eq_getElem?], hP⟩
    | succ i => exact ih (by simpa using hi)

end Separated

namespace Node

variable {n : Node} {ks : List String} {cs : List Node}

/-- In an anchored node every separator is the least key below the child behind it. -/
theorem WellFormed.everywhere_separatorsExact (h : n.WellFormed levels lower upper)
    (ha : n.Anchored lower) : n.Everywhere SeparatorsExact := by
  induction h using WellFormed.induction with
  | leaf _ => exact .node trivial fun c hc => absurd hc List.not_mem_nil
  | internal hks hcs ih =>
    have hsep := ha.separated hks hcs
    refine .node (fun i k hi => ?_) fun c hc => ?_
    · obtain ⟨c, hi', hc, hwf, hchild⟩ := hsep.exists_getElem?_succ hi
      refine ⟨c, hc, hchild.lower_stored k rfl, fun x hx => ?_⟩
      exact le_of_inRange (hwf.keysWithin_allKeys.within x hx)
    · obtain ⟨lo, hi, ⟨hwf, hchild⟩, -⟩ := hsep.exists_of_mem hks hc
      exact ih hwf hchild

/-- The first keys of the leaves below a row of children, provided that they are known for each
child. -/
theorem map_head?_flatMap_leaves
    (hcs : Separated (fun lo hi c => c.WellFormed levels lo hi ∧ c.Anchored lo) lower upper ks cs)
    (hc : ∀ {lo hi : Option String} {c : Node}, c.WellFormed levels lo hi → c.Anchored lo →
      c.leaves.map (fun l => l.keys.head?) = c.allKeys.head? :: c.separators.map some) :
    (cs.flatMap leaves).map (fun l => l.keys.head?) =
      (cs.flatMap allKeys).head? :: (separatorsBetween ks cs).map some := by
  induction hcs with
  | last child => simpa [separatorsBetween] using hc child.1 child.2
  | @cons lower upper k ks c cs child others ih =>
    obtain ⟨x, hx⟩ := child.1.exists_mem_allKeys child.2.leaves_ne_nil
    have hne : c.allKeys ≠ [] := List.ne_nil_of_mem hx
    -- what lies behind the separator begins with it
    have hfirst : (cs.flatMap allKeys).head? = some k := by
      obtain ⟨c', hi, hhead, hwf, hanchored⟩ := others.exists_head?
      obtain ⟨cs', rfl⟩ := List.head?_eq_some_iff.1 hhead
      have hk := hwf.keysWithin_allKeys.head?_eq (hanchored.lower_stored k rfl)
      rw [List.flatMap_cons, List.head?_append, hk, Option.some_or]
    rw [List.flatMap_cons, List.map_append, hc child.1 child.2, ih, hfirst, List.flatMap_cons,
      List.head?_append_of_ne_nil _ hne, separatorsBetween, List.map_append, List.map_cons,
      List.cons_append]

/-- The first keys of the leaves below a node are its separators, but for that of the leftmost
leaf. -/
theorem WellFormed.map_head?_leaves (h : n.WellFormed levels lower upper)
    (ha : n.Anchored lower) :
    n.leaves.map (fun l => l.keys.head?) = n.allKeys.head? :: n.separators.map some := by
  induction h using WellFormed.induction with
  | leaf _ => simp
  | internal hks hcs ih =>
    rw [leaves_internal, allKeys_internal, separators_internal]
    exact map_head?_flatMap_leaves (ha.separated hks hcs) ih

end Node

/-- The first keys of some leaves are among all of their keys. -/
theorem filterMap_head?_sublist (ls : List Leaf) :
    (ls.filterMap fun l => l.keys.head?).Sublist (ls.flatMap Leaf.keys) := by
  induction ls with
  | nil => exact .slnil
  | cons l ls ih =>
    rw [List.filterMap_cons, List.flatMap_cons]
    cases hkeys : l.keys with
    | nil => exact ih
    | cons k ks => exact (ih.trans (List.sublist_append_right ks _)).cons_cons k

/-! ### Trees -/

namespace Tree

variable {t : Tree}

/-- `t.Anchored` says the separators of `t` are stored keys, and below an internal root no leaf is
empty. -/
structure Anchored (t : Tree) : Prop where
  /-- The separators are stored keys. -/
  separators_stored : ∀ k ∈ t.root.separators, k ∈ t.allKeys
  /-- A leaf that is not the root has a key. -/
  leaves_ne_nil : t.root.isLeaf = false → ∀ l ∈ t.root.leaves, l.keys ≠ []

theorem anchored_empty (config : IndexConfig) : (empty config).Anchored := by
  refine ⟨fun k hk => ?_, fun hinternal => absurd hinternal Bool.noConfusion⟩
  rw [empty, Node.separators_leaf] at hk
  exact absurd hk List.not_mem_nil

theorem growsInto_insert (hwf : t.WellFormed) (hv : t.config.Valid) (key : String) (id : RowId) :
    t.root.GrowsInto (t.insert key id).root := by
  obtain ⟨levels, hroot⟩ := hwf
  have ho : 2 ≤ t.config.order := Nat.le_trans (by decide) hv
  cases hpolicy : t.config.policy with
  | rootOnly =>
    obtain ⟨n, hn, hnwf, -⟩ := hroot.insertInLeaf?_spec (inRange_none_none key) id
    obtain ⟨g, hg, -⟩ := hnwf.splitIfFull?_spec ho
    rw [insert, insert?_of_rootOnly hpolicy hn hg, Option.getD_some]
    exact (hroot.growsInto_of_insertInLeaf? (inRange_none_none key) hn).splitIfFull? ho hg
  | recursive =>
    obtain ⟨g, hg, -⟩ := hroot.insertSplitting?_spec ho (inRange_none_none key) id
    rw [insert, insert?_of_recursive hpolicy hg, Option.getD_some]
    exact hroot.growsInto_of_insertSplitting? ho (inRange_none_none key) hg

/-- Keys are never removed, so a separator that is stored stays so. -/
theorem Anchored.insert (h : t.Anchored) (hwf : t.WellFormed) (hv : t.config.Valid)
    (key : String) (id : RowId) : (t.insert key id).Anchored := by
  have hgrows := growsInto_insert hwf hv key id
  have hkept : ∀ k ∈ t.allKeys, k ∈ (t.insert key id).allKeys := by
    intro k hk
    rw [allKeys_eq_map_entries hwf] at hk
    rw [allKeys_eq_map_entries (hwf.insert hv key id), entries_insert hwf hv, mem_keys_addUnder]
    exact .inr hk
  refine ⟨fun k hk => ?_, fun _ l hl => ?_⟩
  · rcases hgrows.separators k hk with hk | hk
    · exact hkept k (h.separators_stored k hk)
    · exact hk
  · rcases hgrows.leaves l hl with hl | ⟨hl, hinternal⟩
    · exact hl
    · exact h.leaves_ne_nil hinternal l hl

theorem anchored_ofEntries {config : IndexConfig} (hv : config.Valid)
    (es : List (String × RowId)) : (ofEntries config es).Anchored := by
  refine ofEntries_induction (P := fun _ t => t.Anchored) hv (anchored_empty config) ?_ es
  intro es t e hconfig hwf _ ih
  exact ih.insert hwf (hconfig.symm ▸ hv) e.1 e.2

/-- The separators of a tree are the first keys of its leaves, and exact at every node. -/
theorem Anchored.separatorsExact (h : t.Anchored) (hwf : t.WellFormed) :
    t.root.Everywhere Node.SeparatorsExact ∧
      t.root.separators.map some = t.root.leaves.tail.map fun l => l.keys.head? := by
  obtain ⟨levels, hroot⟩ := hwf
  cases hleaf : t.root.isLeaf with
  | true =>
    -- a root that is a leaf may be empty, but it has no separators
    obtain ⟨l, hl⟩ : ∃ l, t.root = .leaf l := by
      cases hnode : t.root with
      | leaf l => exact ⟨l, rfl⟩
      | internal ks cs => exact absurd (hnode ▸ hleaf) Bool.noConfusion
    rw [hl]
    exact ⟨.node trivial fun c hc => absurd hc List.not_mem_nil, by simp⟩
  | false =>
    have hanchored : t.root.Anchored none :=
      ⟨fun a ha => absurd ha (by simp), h.separators_stored, h.leaves_ne_nil hleaf⟩
    refine ⟨hroot.everywhere_separatorsExact hanchored, ?_⟩
    rw [List.map_tail, hroot.map_head?_leaves hanchored, List.tail_cons]

/-- In a tree that is filled by insertions every separator of every internal node is a stored key
and the least one below the child behind it.  Read from left to right, the separators of all
internal nodes are the first keys of all leaves but the leftmost.  So none of them occurs twice,
and there is one leaf more than separators. -/
theorem separatorsExact_ofEntries {config : IndexConfig} (hv : config.Valid)
    (es : List (String × RowId)) :
    let t := ofEntries config es
    t.root.Everywhere Node.SeparatorsExact ∧
      (∀ k ∈ t.root.separators, k ∈ t.allKeys) ∧
      t.root.separators.map some = t.root.leaves.tail.map (fun l => l.keys.head?) ∧
      t.root.separators.Nodup ∧
      t.stats.leafCount = t.root.separators.length + 1 := by
  intro t
  have hwf : t.WellFormed := wellFormed_ofEntries hv es
  have hanchored : t.Anchored := anchored_ofEntries hv es
  obtain ⟨hexact, hfirst⟩ := hanchored.separatorsExact hwf
  obtain ⟨levels, hroot⟩ := hwf
  refine ⟨hexact, hanchored.separators_stored, hfirst, ?_, ?_⟩
  · have hkeys : t.root.separators = t.root.leaves.tail.filterMap fun l => l.keys.head? := by
      have hmap := congrArg (List.filterMap fun k => k) hfirst
      rw [List.filterMap_map, List.filterMap_map] at hmap
      simpa [Function.comp_def] using hmap
    have hsublist : t.root.separators.Sublist t.root.allKeys := by
      rw [hkeys]
      exact ((List.tail_sublist _).filterMap _).trans (filterMap_head?_sublist t.root.leaves)
    exact (hroot.keysWithin_allKeys.ascending.sublist hsublist).imp ne_of_lt
  · have hlength := congrArg List.length hfirst
    rw [List.length_map, List.length_map, List.length_tail] at hlength
    have hpos : 0 < t.root.leaves.length := List.length_pos_iff.2 hroot.leaves_ne_nil
    show t.root.leaves.length = _
    omega

/-- A separator of the root and those of the two nodes below it. -/
theorem separatorsExact_ofEntries_threeLevels :
    let t := ofEntries ⟨3, .recursive⟩ [("Pug", .first), ("Boxer", .first), ("Akita", .first),
      ("Beagle", .first), ("Boxer", .last), ("Collie", .first), ("Dingo", .first)]
    IndexConfig.Valid ⟨3, .recursive⟩ ∧ t.height = 3 ∧
      t.root.separators = ["Boxer", "Collie", "Dingo"] ∧
      t.root.leaves.tail.map (fun l => l.keys.head?) =
        [some "Boxer", some "Collie", some "Dingo"] ∧
      t.stats.leafCount = 4 := by
  intro t
  have hv : IndexConfig.Valid ⟨3, .recursive⟩ := by decide
  have hseparators : t.root.separators = ["Boxer", "Collie", "Dingo"] := by decide +kernel
  obtain ⟨-, -, hfirst, -, hcount⟩ := separatorsExact_ofEntries hv [("Pug", .first),
    ("Boxer", .first), ("Akita", .first), ("Beagle", .first), ("Boxer", .last),
    ("Collie", .first), ("Dingo", .first)]
  refine ⟨hv, by decide +kernel, hseparators, ?_, ?_⟩
  · rw [← hfirst, hseparators]
    rfl
  · rw [hcount, hseparators]
    rfl

end Tree

end DogRegistry
