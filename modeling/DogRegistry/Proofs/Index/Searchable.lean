import DogRegistry.Proofs.Index.Separators
import DogRegistry.Proofs.Index.Trace

/-!
# What the check of a tree stands for

The check goes through a tree once.  It hands the range of a node down to its children and the depth
of the first leaf on to the others.  What it finds out is a property of the tree as a whole, with
conditions on any node and all that lies below it and on any two leaves.  A tree of this kind can be
searched, in whatever way it came about.

## Main definitions

* `Node.IsIn n root` — a node lies at or below another one.
* `Node.Searchable root` — what makes a tree searchable, said of all its nodes at once.

## Main results

* `Separated.iff_getElem?` — the ranges of the children, by their positions.
* `Node.WellFormed.searchable`, `Node.Searchable.exists_wellFormed` — the conditions on all nodes
  are those that are passed down.
* `Node.WellFormed.get?_eq_some_iff` — a look-up finds what the leaves hold.
* `Tree.check_iff_searchable` — the check accepts the searchable trees, and they can be searched.
-/

namespace DogRegistry

variable {lower upper lo hi : Option String} {key : String} {levels : Nat} {ks : List String}
  {cs : List Node}

/-! ### The ranges of the children -/

/-- Bounds that take precedence over others narrow the range down. -/
theorem inRange_or (h : inRange lo hi key) (h' : inRange lower upper key) :
    inRange (lo.or lower) (hi.or upper) key := by
  cases lo with
  | none =>
    cases hi with
    | none => exact h'
    | some b => exact inRange_some_right h' (lt_of_inRange h)
  | some a =>
    cases hi with
    | none => exact inRange_some_left h' (le_of_inRange h)
    | some b => exact h

theorem inRange_of_or (h : inRange (lo.or lower) (hi.or upper) key) : inRange lo hi key := by
  obtain ⟨hlower, hupper⟩ := inRange_iff.1 h
  refine inRange_iff.2 ⟨fun a ha => hlower a ?_, fun b hb => hupper b ?_⟩
  · rw [Option.mem_def.1 ha, Option.some_or]
    rfl
  · rw [Option.mem_def.1 hb, Option.some_or]
    rfl

/-- Behind the first separator a range begins there or at a later one. -/
theorem Hop.lower_cons_succ_or {k : String} {i : Nat} (hi : i ≤ ks.length) :
    (Hop.lower ⟨k :: ks, i + 1⟩).or lower = (Hop.lower ⟨ks, i⟩).or (some k) := by
  cases i with
  | zero => rfl
  | succ i =>
    show ks[i]?.or lower = ks[i]?.or (some k)
    rw [List.getElem?_eq_getElem hi, Option.some_or, Option.some_or]

/-- The range of a child lies between the separators on its two sides, or else ends where the range
of the node does. -/
theorem Separated.iff_getElem? {P : Option String → Option String → Node → Prop} :
    Separated P lower upper ks cs ↔ cs.length = ks.length + 1 ∧ ∀ i c, cs[i]? = some c →
      P ((Hop.lower ⟨ks, i⟩).or lower) ((Hop.upper ⟨ks, i⟩).or upper) c := by
  constructor
  · intro h
    refine ⟨h.length_eq, ?_⟩
    induction h with
    | @last lower upper c child =>
      intro i c' hc
      cases i with
      | zero =>
        obtain rfl : c = c' := Option.some.inj hc
        exact child
      | succ i => exact absurd hc (by simp)
    | @cons lower upper k ks c cs child others ih =>
      intro i c' hc
      cases i with
      | zero =>
        obtain rfl : c = c' := Option.some.inj hc
        exact child
      | succ i =>
        rw [List.getElem?_cons_succ] at hc
        have hi : i ≤ ks.length := by
          have hlt := (List.getElem?_eq_some_iff.1 hc).1
          rw [others.length_eq] at hlt
          omega
        rw [Hop.lower_cons_succ_or hi]
        exact ih i c' hc
  · rintro ⟨hlength, hchild⟩
    induction ks generalizing cs lower with
    | nil =>
      obtain ⟨c, rfl⟩ := List.length_eq_one_iff.1 hlength
      exact .last (hchild 0 c rfl)
    | cons k ks ih =>
      obtain ⟨c, cs, rfl⟩ := List.exists_cons_of_length_eq_add_one hlength
      have hlength' : cs.length = ks.length + 1 := by simpa using hlength
      refine .cons (hchild 0 c rfl) (ih hlength' fun i c' hc => ?_)
      have hi : i ≤ ks.length := by
        have hlt := (List.getElem?_eq_some_iff.1 hc).1
        omega
      rw [← Hop.lower_cons_succ_or hi]
      exact hchild (i + 1) c' hc

/-! ### All nodes at once -/

namespace Node

/-- `n.IsIn root` says `n` is `root` or lies below it. -/
inductive IsIn (n : Node) : Node → Prop
  /-- A node lies in itself. -/
  | here : IsIn n n
  /-- What lies in a child lies in the node. -/
  | under {ks : List String} {c : Node} {cs : List Node} (hc : c ∈ cs) (h : IsIn n c) :
    IsIn n (.internal ks cs)

/-- `root.Searchable` says what makes a tree searchable, of all its nodes and all its leaves. -/
structure Searchable (root : Node) : Prop where
  /-- The keys of every node are strictly increasing. -/
  ascending : ∀ n : Node, n.IsIn root → n.keys.Pairwise (· < ·)
  /-- Every leaf has a list of row identifiers for every key. -/
  length_values : ∀ l, (leaf l).IsIn root → l.values.length = l.keys.length
  /-- None of these lists is empty. -/
  nil_notMem : ∀ l, (leaf l).IsIn root → [] ∉ l.values
  /-- Every internal node has one child more than keys. -/
  length_children : ∀ ks cs, (internal ks cs).IsIn root → cs.length = ks.length + 1
  /-- All keys in a child lie between the separators on its two sides, however far below. -/
  inRange : ∀ ks cs, (internal ks cs).IsIn root → ∀ i c, cs[i]? = some c →
    ∀ n : Node, n.IsIn c → ∀ key ∈ n.keys, inRange (Hop.lower ⟨ks, i⟩) (Hop.upper ⟨ks, i⟩) key
  /-- Any two leaves lie at the same depth. -/
  depth_eq : ∀ l l' depth depth', root.LeafAt l depth → root.LeafAt l' depth' → depth = depth'

variable {n m root : Node}

/-- What lies in a node in order is in order, in a range within its range. -/
theorem WellFormed.exists_of_isIn (h : n.WellFormed levels lower upper) (hm : m.IsIn n) :
    ∃ levels lo hi, m.WellFormed levels lo hi ∧
      ∀ key, DogRegistry.inRange lo hi key → DogRegistry.inRange lower upper key := by
  induction hm generalizing levels lower upper with
  | here => exact ⟨levels, lower, upper, h, fun _ hkey => hkey⟩
  | @under ks c cs hc _ ih =>
    obtain ⟨below, -, hks, hcs⟩ := h.exists_of_internal
    obtain ⟨lo, hi, hchild, hwiden, -⟩ := hcs.exists_of_mem hks hc
    obtain ⟨levels', lo', hi', hwf, hwiden'⟩ := ih hchild
    exact ⟨levels', lo', hi', hwf, fun key hkey => hwiden key (hwiden' key hkey)⟩

theorem WellFormed.keysWithin_keys (h : n.WellFormed levels lower upper) :
    KeysWithin lower upper n.keys := by
  induction h using WellFormed.induction with
  | leaf hl => exact hl.keys
  | internal hks _ _ => exact hks

/-- A node in order is searchable. -/
theorem WellFormed.searchable (h : root.WellFormed levels lower upper) : root.Searchable := by
  refine
    { ascending := fun n hn => ?_
      length_values := fun l hl => ?_
      nil_notMem := fun l hl => ?_
      length_children := fun ks cs hn => ?_
      inRange := fun ks cs hn i c hc m hm key hkey => ?_
      depth_eq := fun l l' depth depth' hl hl' => ?_ }
  · obtain ⟨_, _, _, hwf, -⟩ := h.exists_of_isIn hn
    exact hwf.keysWithin_keys.ascending
  · obtain ⟨_, _, _, hwf, -⟩ := h.exists_of_isIn hl
    exact hwf.of_leaf.2.length_values
  · obtain ⟨_, _, _, hwf, -⟩ := h.exists_of_isIn hl
    exact hwf.of_leaf.2.nil_notMem
  · obtain ⟨_, _, _, hwf, -⟩ := h.exists_of_isIn hn
    obtain ⟨_, -, -, hcs⟩ := hwf.exists_of_internal
    exact hcs.length_eq
  · obtain ⟨_, _, _, hwf, -⟩ := h.exists_of_isIn hn
    obtain ⟨_, -, -, hcs⟩ := hwf.exists_of_internal
    have hchild := (Separated.iff_getElem?.1 hcs).2 i c hc
    obtain ⟨_, _, _, hm, hwiden⟩ := hchild.exists_of_isIn hm
    exact inRange_of_or (hwiden key (hm.keysWithin_keys.within key hkey))
  · rw [h.depth_eq_height hl, h.depth_eq_height hl']

/-- What lies in a searchable node is searchable. -/
theorem Searchable.child (h : (internal ks cs).Searchable) {c : Node} (hc : c ∈ cs) :
    c.Searchable where
  ascending n hn := h.ascending n (.under hc hn)
  length_values l hl := h.length_values l (.under hc hl)
  nil_notMem l hl := h.nil_notMem l (.under hc hl)
  length_children ks cs hn := h.length_children ks cs (.under hc hn)
  inRange ks cs hn := h.inRange ks cs (.under hc hn)
  depth_eq l l' depth depth' hl hl' := by
    have heq := h.depth_eq l l' _ _ (.under hc hl) (.under hc hl')
    omega

/-- Some leaf lies below a node in order, at the depth of all of them. -/
theorem WellFormed.exists_leafAt (h : n.WellFormed levels lower upper) :
    ∃ l, n.LeafAt l (levels + 1) := by
  obtain ⟨l, hl⟩ := List.exists_mem_of_ne_nil n.leaves h.leaves_ne_nil
  have hleaf := h.leafAt hl
  rw [h.height_eq] at hleaf
  exact ⟨l, hleaf⟩

/-- A searchable node with all of its keys in a range is in order. -/
theorem Searchable.exists_wellFormed (h : n.Searchable)
    (hrange : ∀ m : Node, m.IsIn n → ∀ key ∈ m.keys, DogRegistry.inRange lower upper key) :
    ∃ levels, n.WellFormed levels lower upper := by
  induction n using children_induction generalizing lower upper with
  | leaf l =>
    exact ⟨0, ⟨h.ascending _ .here, hrange _ .here⟩, h.length_values l .here, h.nil_notMem l .here⟩
  | internal ks cs ih =>
    have hlength := h.length_children ks cs .here
    -- the range of a child is that between its separators, within the range of the node
    have hchild : ∀ (i : Nat) (c : Node), cs[i]? = some c → ∃ levels,
        c.WellFormed levels ((Hop.lower ⟨ks, i⟩).or lower) ((Hop.upper ⟨ks, i⟩).or upper) := by
      intro i c hc
      have hmem : c ∈ cs := List.mem_of_getElem? hc
      refine ih c hmem (h.child hmem) fun m hm key hkey => ?_
      exact inRange_or (h.inRange ks cs .here i c hc m hm key hkey)
        (hrange m (.under hmem hm) key hkey)
    have hfirst : cs[0]? = some cs[0] := List.getElem?_eq_getElem (by omega)
    obtain ⟨levels, hwf⟩ := hchild 0 cs[0] hfirst
    obtain ⟨l, hl⟩ := hwf.exists_leafAt
    refine ⟨levels + 1, ⟨h.ascending _ .here, hrange _ .here⟩,
      Separated.iff_getElem?.2 ⟨hlength, fun i c hc => ?_⟩⟩
    obtain ⟨levels', hwf'⟩ := hchild i c hc
    obtain ⟨l', hl'⟩ := hwf'.exists_leafAt
    -- a leaf below this child lies as deep as one below the first child
    have hdepth := h.depth_eq l l' _ _ (.under (List.mem_of_getElem? hfirst) hl)
      (.under (List.mem_of_getElem? hc) hl')
    obtain rfl : levels = levels' := by omega
    exact hwf'

/-! ### Look-ups -/

/-- A group is what some leaf has at one position. -/
theorem mem_entries_iff {ids : List RowId} :
    (key, ids) ∈ n.entries ↔
      ∃ l ∈ n.leaves, ∃ i : Nat, l.keys[i]? = some key ∧ l.values[i]? = some ids := by
  rw [entries, List.mem_flatMap]
  refine exists_congr fun l => and_congr_right fun _ => ?_
  rw [Leaf.entries, List.mem_iff_getElem?]
  exact exists_congr fun i => List.getElem?_zip_eq_some

/-- A look-up finds what the leaves hold. -/
theorem WellFormed.get?_eq_some_iff (h : n.WellFormed levels lower upper)
    (hkey : DogRegistry.inRange lower upper key) {ids : List RowId} :
    n.get? key = some ids ↔
      ∃ l ∈ n.leaves, ∃ i : Nat, l.keys[i]? = some key ∧ l.values[i]? = some ids := by
  rw [h.get?_eq_lookup hkey, ← mem_entries_iff,
    mem_iff_lookup_eq_some h.keysWithin_entries.ascending (key, ids)]

/-- And it finds something for the keys of the leaves. -/
theorem WellFormed.isSome_get?_iff (h : n.WellFormed levels lower upper)
    (hkey : DogRegistry.inRange lower upper key) :
    (n.get? key).isSome ↔ ∃ l ∈ n.leaves, key ∈ l.keys := by
  rw [Option.isSome_iff_exists]
  simp only [h.get?_eq_some_iff hkey]
  constructor
  · rintro ⟨ids, l, hl, i, hi, -⟩
    exact ⟨l, hl, List.mem_of_getElem? hi⟩
  · rintro ⟨l, hl, hmem⟩
    obtain ⟨i, hi, rfl⟩ := List.mem_iff_getElem.1 hmem
    obtain ⟨_, _, hwf⟩ := h.of_mem_leaves l hl
    have hi' : i < l.values.length := by
      rw [hwf.length_values]
      exact hi
    exact ⟨l.values[i], l, hl, i, List.getElem?_eq_getElem hi, List.getElem?_eq_getElem hi'⟩

end Node

/-! ### Trees -/

namespace Tree

/-- A tree is in order if and only if it is searchable. -/
theorem wellFormed_iff_searchable {t : Tree} : t.WellFormed ↔ t.root.Searchable := by
  constructor
  · rintro ⟨levels, hroot⟩
    exact hroot.searchable
  · intro h
    exact h.exists_wellFormed fun _ _ key _ => inRange_none_none key

/-- The check accepts exactly the trees whose nodes are all in order, in themselves and with what
lies below them, and whose leaves all lie at one depth.  In such a tree the keys of the leaves are
strictly increasing from left to right, there is a way to every key, and a look-up answers with the
list that a leaf holds for the key, for the keys in the leaves and for no others. -/
theorem check_iff_searchable (t : Tree) :
    (t.check = .ok () ↔ t.root.Searchable) ∧
      (t.check = .ok () → t.allKeys.Pairwise (· < ·) ∧
        ∀ key, (t.root.descend? key).isSome ∧
          (∀ ids, t.get? key = some ids ↔
            ∃ l ∈ t.root.leaves, ∃ i : Nat, l.keys[i]? = some key ∧ l.values[i]? = some ids) ∧
          ((t.get? key).isSome ↔ ∃ l ∈ t.root.leaves, key ∈ l.keys)) := by
  rw [check_eq_ok_iff]
  refine ⟨wellFormed_iff_searchable, ?_⟩
  rintro ⟨levels, hroot⟩
  refine ⟨hroot.keysWithin_allKeys.ascending, fun key => ⟨?_, fun ids => ?_, ?_⟩⟩
  · obtain ⟨d, hd, -⟩ := hroot.exists_descend (inRange_none_none key)
    rw [hd, Option.isSome_some]
  · exact hroot.get?_eq_some_iff (inRange_none_none key)
  · exact hroot.isSome_get?_iff (inRange_none_none key)

/-- A tree that no insertions lead to: an internal node with a single child, an empty leaf, and a
separator that is no key. -/
def uneven : Tree :=
  ⟨.internal ["Boxer"]
    [.internal [] [.leaf ⟨["Akita"], [[.last]]⟩],
      .internal ["Collie", "Dingo"]
        [.leaf ⟨["Boxer"], [[.first]]⟩, .leaf {}, .leaf ⟨["Pug"], [[.first, .last]]⟩]],
    ⟨3, .recursive⟩⟩

theorem check_iff_searchable_uneven :
    uneven.check = .ok () ∧ uneven.root.Searchable ∧ uneven.get? "Pug" = some [.first, .last] ∧
      (uneven.get? "Dingo").isSome = false := by
  have hcheck : uneven.check = .ok () := by decide +kernel
  obtain ⟨hsearchable, hsearch⟩ := check_iff_searchable uneven
  obtain ⟨-, hpug⟩ := (hsearch hcheck).2 "Pug"
  obtain ⟨-, -, hdingo⟩ := (hsearch hcheck).2 "Dingo"
  refine ⟨hcheck, hsearchable.1 hcheck, ?_, ?_⟩
  · refine (hpug.1 _).2 ⟨⟨["Pug"], [[.first, .last]]⟩, ?_, 0, rfl, rfl⟩
    decide +kernel
  · rw [Bool.eq_false_iff, ne_eq, hdingo]
    decide +kernel

-- a key that the parent of its leaf allows but the root does not
example : Tree.check ⟨.internal ["Boxer"]
    [.internal [] [.leaf ⟨["Pug"], [[.first]]⟩], .internal [] [.leaf {}]], ⟨3, .recursive⟩⟩ =
      .error (.keyOutOfRange "Pug" none (some "Boxer")) := by
  decide +kernel

end Tree

end DogRegistry
