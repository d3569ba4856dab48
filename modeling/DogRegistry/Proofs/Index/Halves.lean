import DogRegistry.Proofs.Index.Leaf

/-!
# Halves of a node

A node that has all its parts is split into two halves with the same keys, row identifiers and
children in the same order.  Neither the place that a separator and the upper half take in the node
above, nor a new root above the two halves, changes what the leaves hold.  Nothing here asks for
keys in order.

## Main definitions

* `Node.Splittable n` — the node has the parts that a split needs.
* `Node.HasHalves n s` — the two halves of a node and the separator between them.

## Main results

* `Node.Splittable.exists_hasHalves` — a split succeeds and gives the two halves.
* `Node.HasHalves.entries_join`, `Node.HasHalves.height_join` — a root above the halves.
* `Node.insertSplit?_append` — where the separator and the upper half go in the node above.
* `Node.split_keeps_entries` — all of this for one split.
-/

namespace DogRegistry

namespace Node

/-! ### The halves -/

/-- `n.Splittable` says the node `n` has the parts that a split needs. -/
inductive Splittable : Node → Prop
  /-- A leaf has two keys or more, and a list of row identifiers for every one of them. -/
  | leaf {l : Leaf} (hkeys : 2 ≤ l.keys.length) (hvalues : l.values.length = l.keys.length) :
    Splittable (.leaf l)
  /-- An internal node has a key or more, and one child more than keys. -/
  | internal {ks : List String} {cs : List Node} (hkeys : 1 ≤ ks.length)
    (hcs : cs.length = ks.length + 1) : Splittable (.internal ks cs)

/-- `n.HasHalves s` says `s` is the node `n` cut at half of its keys, rounded down. -/
inductive HasHalves : Node → Split → Prop
  /-- The keys of a leaf keep their lists of row identifiers.  The separator is the first key of the
  upper half. -/
  | leaf {as bs : List String} {vs ws : List (List RowId)} {sep : String}
    (hvs : vs.length = as.length) (hws : ws.length = (sep :: bs).length)
    (half : as.length = (as ++ sep :: bs).length / 2) :
    HasHalves (.leaf ⟨as ++ sep :: bs, vs ++ ws⟩) ⟨.leaf ⟨as, vs⟩, sep, .leaf ⟨sep :: bs, ws⟩⟩
  /-- The separator of an internal node is in neither half, and both have one child more than
  keys. -/
  | internal {as bs : List String} {left right : List Node} {sep : String}
    (hleft : left.length = as.length + 1) (hright : right.length = bs.length + 1)
    (half : as.length = (as ++ sep :: bs).length / 2) :
    HasHalves (.internal (as ++ sep :: bs) (left ++ right))
      ⟨.internal as left, sep, .internal bs right⟩

/-- A list of texts is cut in the middle. -/
theorem exists_middle {ks : List String} (h : 1 ≤ ks.length) :
    ∃ as sep bs, ks = as ++ sep :: bs ∧ as.length = ks.length / 2 := by
  have hi : ks.length / 2 < ks.length := by omega
  refine ⟨ks.take (ks.length / 2), ks[ks.length / 2], ks.drop (ks.length / 2 + 1), ?_, ?_⟩
  · rw [List.getElem_cons_drop, List.take_append_drop]
  · rw [List.length_take_of_le (Nat.le_of_lt hi)]

/-- A node that has the parts that are needed is split into its halves. -/
theorem Splittable.exists_hasHalves {n : Node} (h : n.Splittable) :
    ∃ s, n.split? = some s ∧ n.HasHalves s := by
  cases h with
  | @leaf l hkeys hvalues =>
    obtain ⟨ks, ws⟩ := l
    obtain ⟨as, sep, bs, rfl, half⟩ := exists_middle (Nat.le_of_succ_le hkeys)
    obtain ⟨vs, ws, rfl, hvs, hws⟩ := exists_append_of_length_eq hvalues
    refine ⟨_, ?_, .leaf hvs hws half⟩
    have hroom : as.length ≤ (vs ++ ws).length := by
      rw [List.length_append]
      omega
    simp only [split?, ← half, List.drop_left, List.take_left, if_pos hroom]
    rw [← hvs, List.take_left, List.drop_left]
  | @internal ks cs hkeys hcs =>
    obtain ⟨as, sep, bs, rfl, half⟩ := exists_middle hkeys
    have hlen : cs.length = ((sep :: as) ++ (sep :: bs)).length := by
      simp only [hcs, List.length_append, List.length_cons]
      omega
    obtain ⟨left, right, rfl, hleft, hright⟩ := exists_append_of_length_eq hlen
    refine ⟨_, ?_, .internal hleft hright half⟩
    have hroom : as.length + 1 ≤ (left ++ right).length := by
      rw [List.length_append, hleft, List.length_cons]
      omega
    simp only [split?, ← half, List.drop_left, List.take_left, if_pos hroom]
    rw [← List.length_cons, ← hleft, List.take_left, List.drop_left]

namespace HasHalves

variable {n : Node} {s : Split}

/-- The lower half has half of the keys, rounded down. -/
theorem length_keys_left (h : n.HasHalves s) : s.left.keys.length = n.keys.length / 2 := by
  cases h with
  | leaf _ _ half => exact half
  | internal _ _ half => exact half

/-- Of two keys or more the lower half gets one. -/
theorem keys_left_ne_nil (h : n.HasHalves s) (hn : 2 ≤ n.keys.length) : s.left.keys ≠ [] := by
  rw [← List.length_pos_iff, h.length_keys_left]
  omega

/-- The upper half has the others, but for the separator of an internal node. -/
theorem length_keys_right (h : n.HasHalves s) :
    s.right.keys.length =
      n.keys.length - n.keys.length / 2 - (if n.isLeaf then 0 else 1) := by
  cases h with
  | leaf _ _ half =>
    simp only [keys, isLeaf, if_true, List.length_append, List.length_cons] at half ⊢
    omega
  | internal _ _ half =>
    simp only [keys, isLeaf, if_false, Bool.false_eq_true, List.length_append,
      List.length_cons] at half ⊢
    omega

/-- The halves hold the groups of the node in their order. -/
theorem entries_append (h : n.HasHalves s) : s.left.entries ++ s.right.entries = n.entries := by
  cases h with
  | leaf hvs _ _ =>
    rw [entries_leaf, entries_leaf, entries_leaf, Leaf.entries, Leaf.entries, Leaf.entries,
      List.zip_append hvs.symm]
  | internal _ _ _ =>
    rw [entries_internal, entries_internal, entries_internal, List.flatMap_append]

/-- A new root above the halves holds the groups of the node. -/
theorem entries_join (h : n.HasHalves s) : s.join.entries = n.entries := by
  rw [Split.join, entries_internal, List.flatMap_cons, List.flatMap_singleton, h.entries_append]

/-- The lower half is as high as the node, since it has the same first child. -/
theorem height_left (h : n.HasHalves s) : s.left.height = n.height := by
  cases h with
  | leaf _ _ _ => rw [height_leaf, height_leaf]
  | internal hleft _ _ =>
    obtain ⟨c, left, rfl⟩ := List.exists_cons_of_length_eq_add_one hleft
    rw [List.cons_append, height_internal_cons, height_internal_cons]

/-- A new root above the halves is one level higher than the node. -/
theorem height_join (h : n.HasHalves s) : s.join.height = n.height + 1 := by
  rw [Split.join, height_internal_cons, h.height_left, Nat.add_comm]

end HasHalves

/-! ### The node above -/

section Above

/-- Another child in the place of one. -/
theorem set_children (left right : List Node) (c c' : Node) :
    (left ++ c :: right).set left.length c' = left ++ c' :: right := by
  rw [List.set_append_right _ _ (Nat.le_refl _), Nat.sub_self, List.set_cons_zero]

/-- A separator goes between the keys on the two sides of a child, and the upper half behind the
child. -/
theorem insertSplit?_append {as bs : List String} {left right : List Node}
    (hlen : left.length = as.length) (c upper : Node) (sep : String) :
    (internal (as ++ bs) (left ++ c :: right)).insertSplit? as.length sep upper =
      some (.internal (as ++ sep :: bs) (left ++ c :: upper :: right)) := by
  have hroom : as.length ≤ (as ++ bs).length ∧ as.length + 1 ≤ (left ++ c :: right).length := by
    simp only [List.length_append, List.length_cons]
    omega
  have hcs : (left ++ c :: right).insertIdx (as.length + 1) upper = left ++ c :: upper :: right := by
    have hcut := insertIdx_length_append (left ++ [c]) right upper
    simpa [hlen] using hcut
  rw [insertSplit?, if_pos hroom, insertIdx_length_append, hcs]

variable {ks : List String} {cs : List Node} {i : Nat} {c : Node} {s : Split}

/-- A row of children seen from one of them. -/
theorem exists_around (hlen : cs.length = ks.length + 1) (hc : cs[i]? = some c) :
    ∃ as bs left right, ks = as ++ bs ∧ cs = left ++ c :: right ∧ left.length = i ∧
      as.length = i ∧ right.length = bs.length := by
  obtain ⟨hi, rfl⟩ := List.getElem?_eq_some_iff.1 hc
  refine ⟨ks.take i, ks.drop i, cs.take i, cs.drop (i + 1), (List.take_append_drop _ _).symm, ?_,
    List.length_take_of_le (Nat.le_of_lt hi), List.length_take_of_le (by omega), ?_⟩
  · rw [List.getElem_cons_drop, List.take_append_drop]
  · rw [List.length_drop, List.length_drop]
    omega

/-- The halves of a child can take its place: there is one child more than keys again, and the
leaves hold the same groups. -/
theorem HasHalves.exists_insertSplit (h : c.HasHalves s) (hlen : cs.length = ks.length + 1)
    (hc : cs[i]? = some c) :
    ∃ ks' cs', (Node.internal ks (cs.set i s.left)).insertSplit? i s.separator s.right =
        some (.internal ks' cs') ∧
      cs'.length = ks'.length + 1 ∧
      (Node.internal ks' cs').entries = (Node.internal ks cs).entries := by
  obtain ⟨as, bs, left, right, rfl, rfl, rfl, has, hright⟩ := exists_around hlen hc
  refine ⟨as ++ s.separator :: bs, left ++ s.left :: s.right :: right, ?_, ?_, ?_⟩
  · rw [set_children, ← has, insertSplit?_append has.symm]
  · simp only [List.length_append, List.length_cons]
    omega
  · simp only [entries_internal, List.flatMap_append, List.flatMap_cons, ← h.entries_append,
      List.append_assoc]

end Above

/-! ### A split as a whole -/

/-- A leaf with two keys or more, or an internal node with a key or more, is split into its two
halves.  They hold its groups in their order, both below a new root, which is one level higher, and
in its place below a node above, which keeps one child more than keys. -/
theorem split_keeps_entries {n : Node} (h : n.Splittable) :
    ∃ s, n.split? = some s ∧ n.HasHalves s ∧
      s.left.keys.length = n.keys.length / 2 ∧
      s.right.keys.length = n.keys.length - n.keys.length / 2 - (if n.isLeaf then 0 else 1) ∧
      s.join.entries = n.entries ∧ s.join.height = n.height + 1 ∧
      ∀ ks cs i, cs.length = ks.length + 1 → cs[i]? = some n →
        ∃ ks' cs', (internal ks (cs.set i s.left)).insertSplit? i s.separator s.right =
            some (.internal ks' cs') ∧
          cs'.length = ks'.length + 1 ∧ (internal ks' cs').entries = (internal ks cs).entries := by
  obtain ⟨s, hs, hhalves⟩ := h.exists_hasHalves
  exact ⟨s, hs, hhalves, hhalves.length_keys_left, hhalves.length_keys_right, hhalves.entries_join,
    hhalves.height_join, fun _ _ _ => hhalves.exists_insertSplit⟩

/-- A node with two keys, the children of which are leaves. -/
def upperBreeds : Node :=
  .internal ["Corgi", "Poodle"]
    [.leaf ⟨["Boxer"], [[.first]]⟩, .leaf ⟨["Corgi", "Dingo"], [[.last, .first], [.last]]⟩,
      .leaf ⟨["Poodle"], [[.first]]⟩]

/-- Two nodes, the second of which is `upperBreeds`. -/
def allBreeds : List Node :=
  [.internal ["Beagle"] [.leaf ⟨["Akita"], [[.first]]⟩, .leaf ⟨["Beagle"], [[.last]]⟩], upperBreeds]

theorem split_keeps_entries_lastChild :
    upperBreeds.Splittable ∧ allBreeds.length = ["Boxer"].length + 1 ∧
      allBreeds[1]? = some upperBreeds ∧
      ∃ s p, upperBreeds.split? = some s ∧ s.join.height = 3 ∧
        (internal ["Boxer"] (allBreeds.set 1 s.left)).insertSplit? 1 s.separator s.right = some p ∧
        p.entries.map Prod.fst = ["Akita", "Beagle", "Boxer", "Corgi", "Dingo", "Poodle"] := by
  have hsplit : upperBreeds.Splittable := .internal (by decide) rfl
  obtain ⟨s, hs, -, -, -, -, hheight, habove⟩ := split_keeps_entries hsplit
  obtain ⟨ks', cs', hp, -, hentries⟩ := habove ["Boxer"] allBreeds 1 rfl rfl
  exact ⟨hsplit, rfl, rfl, s, _, hs, hheight, hp, by rw [hentries]; decide +kernel⟩

end Node

end DogRegistry
