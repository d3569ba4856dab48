import DogRegistry.Proofs.Index.Leaf

/-!
# Trees in order

A node is in order if its keys are, its children cover the ranges between its separators, and all
leaves below it lie at the same depth.  The depth is carried as a number of levels, so that what
holds of every node is shown by induction on the levels below it.

## Main definitions

* `Separated P lower upper ks cs` — the keys `ks` cut the range into one piece for each of the nodes
  `cs`, and `P` holds of every piece and its node.
* `Node.WellFormed levels lower upper` — the node is in order, with `levels` levels above its
  leaves.
* `Node.LeafAt l depth` — the leaf `l` lies at a depth below a node.

## Main results

* `Separated.append_iff` — a separator cuts a row of children in two.
* `Separated.exists_focus` — the child that covers a key, and what may take its place.
* `Node.WellFormed.induction` — induction over the levels of a node in order.
* `Node.WellFormed.keysWithin_allKeys` — the keys below a node are ascending and lie in its range.
* `Node.WellFormed.leafAt`, `Node.WellFormed.depth_eq_height` — all leaves lie at the depth that is
  the height.
-/

namespace DogRegistry

variable {lower upper : Option String} {key : String}

/-! ### Children between separators -/

/-- `Separated P lower upper ks cs` says there is one child for every piece into which the keys cut
the range from `lower` to `upper`, and `P` holds of the two ends of the piece and the child. -/
inductive Separated (P : Option String → Option String → Node → Prop) :
    Option String → Option String → List String → List Node → Prop
  /-- The last child covers what is left of the range. -/
  | last {lower upper : Option String} {c : Node} (child : P lower upper c) :
    Separated P lower upper [] [c]
  /-- A child covers the range up to the first separator, and the others what follows. -/
  | cons {lower upper : Option String} {k : String} {ks : List String} {c : Node} {cs : List Node}
    (child : P lower (some k) c) (others : Separated P (some k) upper ks cs) :
    Separated P lower upper (k :: ks) (c :: cs)

namespace Separated

variable {P : Option String → Option String → Node → Prop} {ks : List String} {cs : List Node}

theorem length_eq (h : Separated P lower upper ks cs) : cs.length = ks.length + 1 := by
  induction h with
  | last _ => rfl
  | cons _ _ ih => rw [List.length_cons, List.length_cons, ih]

/-- A separator cuts a row of children in two. -/
theorem append_iff {as bs : List String} {sep : String} {left right : List Node}
    (hlen : left.length = as.length + 1) :
    Separated P lower upper (as ++ sep :: bs) (left ++ right) ↔
      Separated P lower (some sep) as left ∧ Separated P (some sep) upper bs right := by
  induction as generalizing lower left with
  | nil =>
    -- the only child before the separator covers all that lies below it
    obtain ⟨c, rfl⟩ := List.length_eq_one_iff.1 hlen
    constructor
    · rintro (_ | ⟨child, others⟩)
      exact ⟨.last child, others⟩
    · rintro ⟨_ | child, others⟩
      exact .cons ‹_› others
  | cons a as ih =>
    obtain ⟨c, left, rfl⟩ := List.exists_cons_of_length_eq_add_one hlen
    have hlen' : left.length = as.length + 1 := by simpa using hlen
    constructor
    · rintro (_ | ⟨child, others⟩)
      obtain ⟨hleft, hright⟩ := (ih hlen').1 others
      exact ⟨.cons child hleft, hright⟩
    · rintro ⟨_ | ⟨child, hleft⟩, hright⟩
      exact .cons child ((ih hlen').2 ⟨hleft, hright⟩)

/-- Every child covers some piece of the range. -/
theorem exists_of_mem (h : Separated P lower upper ks cs) (hks : KeysWithin lower upper ks)
    {c : Node} (hc : c ∈ cs) :
    ∃ lo hi, P lo hi c ∧ (∀ k, inRange lo hi k → inRange lower upper k) ∧
      ∀ a ∈ lower, ∃ b ∈ lo, a ≤ b := by
  induction h with
  | @last lower upper c' child =>
    obtain rfl := List.mem_singleton.1 hc
    exact ⟨_, _, child, fun _ hk => hk, fun a ha => ⟨a, ha, le_refl a⟩⟩
  | @cons lower upper k ks c' cs child others ih =>
    have hk : inRange lower upper k := hks.within k List.mem_cons_self
    rcases List.mem_cons.1 hc with rfl | hc
    · exact ⟨_, _, child, fun _ => inRange_widen_right hk, fun a ha => ⟨a, ha, le_refl a⟩⟩
    · obtain ⟨lo, hi, hP, hwiden, hlo⟩ := ih hks.tail hc
      refine ⟨lo, hi, hP, fun x hx => inRange_widen_left hk (hwiden x hx), fun a ha => ?_⟩
      obtain ⟨b, hb, hkb⟩ := hlo k rfl
      exact ⟨b, hb, le_trans ((inRange_iff.1 hk).1 a ha) hkb⟩

/-- Keys read off the children, from left to right, are as ascending as those of each child. -/
theorem keysWithin_flatMap (h : Separated P lower upper ks cs) (hks : KeysWithin lower upper ks)
    {f : Node → List String} (hf : ∀ lo hi c, P lo hi c → KeysWithin lo hi (f c)) :
    KeysWithin lower upper (cs.flatMap f) := by
  induction h with
  | last child => simpa using hf _ _ _ child
  | cons child _ ih =>
    rw [List.flatMap_cons]
    exact (hf _ _ _ child).append (ih hks.tail) (hks.within _ List.mem_cons_self)

end Separated

/-! ### The child that covers a key -/

/-- A row of children seen from the one that covers `key`: what stands before it and after it, the
piece of the range that it covers, and what may take its place. -/
structure Focus (P : Option String → Option String → Node → Prop) (lower upper : Option String)
    (key : String) (ks : List String) (cs : List Node) where
  /-- The separators before the child. -/
  before : List String
  /-- The separators after the child. -/
  after : List String
  /-- The children before it. -/
  left : List Node
  /-- The child. -/
  child : Node
  /-- The children after it. -/
  right : List Node
  /-- Where its piece of the range begins. -/
  lo : Option String
  /-- Where its piece of the range ends. -/
  hi : Option String
  keys_eq : ks = before ++ after
  children_eq : cs = left ++ child :: right
  length_left : left.length = before.length
  childIndex_eq : childIndex ks key = before.length
  property : P lo hi child
  covers : inRange lo hi key
  /-- The piece lies within the range. -/
  widen : ∀ k, inRange lo hi k → inRange lower upper k
  lower_le : ∀ a ∈ lower, ∃ b ∈ lo, a ≤ b
  before_le : ∀ k ∈ before, ∃ a ∈ lo, k ≤ a
  le_after : ∀ k ∈ after, ∃ b ∈ hi, b ≤ k
  /-- The children before it cover pieces that end at or below the key. -/
  left_le : ∀ c ∈ left, ∃ a b, P a (some b) c ∧ b ≤ key
  /-- The children after it cover pieces that begin above the key. -/
  lt_right : ∀ c ∈ right, ∃ a b, P (some a) b c ∧ key < a
  /-- Any row of children that covers the same piece can stand in its place. -/
  replace : ∀ seps nodes, Separated P lo hi seps nodes →
    Separated P lower upper (before ++ (seps ++ after)) (left ++ (nodes ++ right))

theorem Separated.exists_focus {P : Option String → Option String → Node → Prop} {ks : List String}
    {cs : List Node} (h : Separated P lower upper ks cs) (hks : KeysWithin lower upper ks)
    (hkey : inRange lower upper key) : Nonempty (Focus P lower upper key ks cs) := by
  induction h with
  | @last lower upper c child =>
    exact ⟨{
      before := [], after := [], left := [], child := c, right := [], lo := lower, hi := upper
      keys_eq := rfl, children_eq := rfl, length_left := rfl, childIndex_eq := rfl
      property := child, covers := hkey, widen := fun _ hk => hk
      lower_le := fun a ha => ⟨a, ha, le_refl a⟩
      before_le := by simp, le_after := by simp, left_le := by simp, lt_right := by simp
      replace := fun seps nodes hs => by simpa using hs }⟩
  | @cons lower upper k ks c cs child others ih =>
    have hk : inRange lower upper k := hks.within k List.mem_cons_self
    by_cases hle : k ≤ key
    · -- the separator is passed: the child is one of the others
      obtain ⟨f⟩ := ih hks.tail (inRange_some_left hkey hle)
      refine ⟨{
        before := k :: f.before, after := f.after, left := c :: f.left, child := f.child
        right := f.right, lo := f.lo, hi := f.hi
        keys_eq := congrArg (k :: ·) f.keys_eq
        children_eq := congrArg (c :: ·) f.children_eq
        length_left := congrArg (· + 1) f.length_left
        childIndex_eq := ?_, property := f.property, covers := f.covers
        widen := fun x hx => inRange_widen_left hk (f.widen x hx)
        lower_le := ?_, before_le := ?_, le_after := f.le_after
        left_le := ?_, lt_right := f.lt_right
        replace := fun seps nodes hs => .cons child (f.replace seps nodes hs) }⟩
      · rw [childIndex_cons hks.ascending, if_pos hle, f.childIndex_eq, List.length_cons]
      · intro a ha
        obtain ⟨b, hb, hkb⟩ := f.lower_le k rfl
        exact ⟨b, hb, le_trans ((inRange_iff.1 hk).1 a ha) hkb⟩
      · intro x hx
        rcases List.mem_cons.1 hx with rfl | hx
        · exact f.lower_le x rfl
        · exact f.before_le x hx
      · intro x hx
        rcases List.mem_cons.1 hx with rfl | hx
        · exact ⟨lower, k, child, hle⟩
        · exact f.left_le x hx
    · have hlt : key < k := not_le.1 hle
      refine ⟨{
        before := [], after := k :: ks, left := [], child := c, right := cs
        lo := lower, hi := some k
        keys_eq := rfl, children_eq := rfl, length_left := rfl
        childIndex_eq := ?_, property := child, covers := inRange_some_right hkey hlt
        widen := fun _ => inRange_widen_right hk
        lower_le := fun a ha => ⟨a, ha, le_refl a⟩
        before_le := by simp, le_after := ?_, left_le := by simp, lt_right := ?_
        replace := ?_ }⟩
      · rw [childIndex_cons hks.ascending, if_neg hle, List.length_nil]
      · intro x hx
        refine ⟨k, rfl, ?_⟩
        rcases List.mem_cons.1 hx with rfl | hx
        · exact le_refl x
        · exact le_of_lt ((List.pairwise_cons.1 hks.ascending).1 x hx)
      · intro x hx
        obtain ⟨a, b, hP, -, ha⟩ := others.exists_of_mem hks.tail hx
        obtain ⟨a, rfl, hka⟩ := ha k rfl
        exact ⟨a, b, hP, lt_of_lt_of_le hlt hka⟩
      · intro seps nodes hs
        exact (append_iff hs.length_eq).2 ⟨hs, others⟩

namespace Focus

variable {P : Option String → Option String → Node → Prop} {ks : List String} {cs : List Node}

theorem getElem?_children (f : Focus P lower upper key ks cs) :
    cs[childIndex ks key]? = some f.child := by
  rw [f.childIndex_eq, ← f.length_left]
  simp [f.children_eq]

theorem flatMap_children {α : Type} (f : Focus P lower upper key ks cs) (g : Node → List α) :
    cs.flatMap g = f.left.flatMap g ++ (g f.child ++ f.right.flatMap g) := by
  rw [← List.flatMap_cons, ← List.flatMap_append, ← f.children_eq]

end Focus

/-! ### Nodes in order -/

namespace Node

/-- `n.WellFormed levels lower upper` says the keys of `n` and of all nodes below it are ascending
and lie in the ranges assigned to them, every leaf is in order, and there are exactly `levels`
levels above every leaf. -/
def WellFormed : Nat → Option String → Option String → Node → Prop
  | 0, lower, upper, .leaf l => l.WellFormed lower upper
  | levels + 1, lower, upper, .internal ks cs =>
    KeysWithin lower upper ks ∧ Separated (WellFormed levels) lower upper ks cs
  | _, _, _, _ => False

/-- `n.LeafAt l depth` says the leaf `l` lies below the node `n` at the given depth, where `n`
itself is at depth one. -/
inductive LeafAt (l : Leaf) : Nat → Node → Prop
  /-- A leaf lies at its own place. -/
  | here : LeafAt l 1 (.leaf l)
  /-- What lies below a child lies one level deeper below the node. -/
  | under {depth : Nat} {ks : List String} {c : Node} {cs : List Node} (hc : c ∈ cs)
    (h : LeafAt l depth c) : LeafAt l (depth + 1) (.internal ks cs)

variable {levels : Nat} {n : Node} {ks : List String} {cs : List Node} {l : Leaf}

@[simp] theorem wellFormed_leaf :
    (Node.leaf l).WellFormed 0 lower upper ↔ l.WellFormed lower upper := Iff.rfl

@[simp] theorem wellFormed_internal :
    (Node.internal ks cs).WellFormed (levels + 1) lower upper ↔
      KeysWithin lower upper ks ∧ Separated (WellFormed levels) lower upper ks cs := Iff.rfl

namespace WellFormed

/-- There are no levels above a leaf. -/
theorem of_leaf (h : (Node.leaf l).WellFormed levels lower upper) :
    levels = 0 ∧ l.WellFormed lower upper := by
  cases levels with
  | zero => exact ⟨rfl, h⟩
  | succ levels => exact h.elim

/-- The children of a node have one level fewer below them. -/
theorem exists_of_internal (h : (Node.internal ks cs).WellFormed levels lower upper) :
    ∃ below, levels = below + 1 ∧ KeysWithin lower upper ks ∧
      Separated (Node.WellFormed below) lower upper ks cs := by
  cases levels with
  | zero => exact h.elim
  | succ below => exact ⟨below, rfl, h⟩

/-- Induction over the nodes in order: what holds of the leaves, and of an internal node where it
holds of all nodes with a level fewer, holds of every node. -/
@[elab_as_elim]
theorem induction
    {motive : ∀ (levels : Nat) (lower upper : Option String) (n : Node),
      n.WellFormed levels lower upper → Prop}
    (leaf : ∀ {lower upper : Option String} {l : Leaf} (hl : l.WellFormed lower upper),
      motive 0 lower upper (.leaf l) hl)
    (internal : ∀ {levels : Nat} {lower upper : Option String} {ks : List String} {cs : List Node}
      (hks : KeysWithin lower upper ks) (hcs : Separated (Node.WellFormed levels) lower upper ks cs)
      (_ih : ∀ {lo hi : Option String} {c : Node} (hc : c.WellFormed levels lo hi),
        motive levels lo hi c hc),
      motive (levels + 1) lower upper (.internal ks cs) ⟨hks, hcs⟩)
    {levels : Nat} {lower upper : Option String} {n : Node} (h : n.WellFormed levels lower upper) :
    motive levels lower upper n h := by
  induction levels generalizing n lower upper with
  | zero =>
    cases n with
    | leaf l => exact leaf h
    | internal ks cs => exact h.elim
  | succ levels ih =>
    cases n with
    | leaf l => exact h.elim
    | internal ks cs => exact internal h.1 h.2 ih

/-- The keys below a node in order are ascending and lie in its range. -/
theorem keysWithin_allKeys (h : n.WellFormed levels lower upper) :
    KeysWithin lower upper n.allKeys := by
  induction h using WellFormed.induction with
  | leaf hl =>
    rw [allKeys_leaf]
    exact hl.keys
  | internal hks hcs ih =>
    rw [allKeys_internal]
    exact hcs.keysWithin_flatMap hks fun _ _ _ => ih

theorem height_eq (h : n.WellFormed levels lower upper) : n.height = levels + 1 := by
  induction h using WellFormed.induction with
  | leaf _ => rw [height_leaf]
  | internal _ hcs ih =>
    -- the height is measured along the first child, which is as high as all of them
    cases hcs with
    | last child => rw [height_internal_cons, ih child, Nat.add_comm]
    | cons child _ => rw [height_internal_cons, ih child, Nat.add_comm]

/-- Every leaf below a node in order is itself in order. -/
theorem of_mem_leaves (h : n.WellFormed levels lower upper) :
    ∀ l ∈ n.leaves, ∃ lo hi, l.WellFormed lo hi := by
  induction h using WellFormed.induction with
  | leaf hl =>
    intro l hmem
    rw [leaves_leaf, List.mem_singleton] at hmem
    exact ⟨_, _, hmem ▸ hl⟩
  | internal hks hcs ih =>
    intro l hmem
    rw [leaves_internal, List.mem_flatMap] at hmem
    obtain ⟨c, hc, hmem⟩ := hmem
    obtain ⟨_, _, hchild, -⟩ := hcs.exists_of_mem hks hc
    exact ih hchild l hmem

theorem map_fst_entries (h : n.WellFormed levels lower upper) :
    n.entries.map Prod.fst = n.allKeys := by
  rw [entries, List.map_flatMap, allKeys]
  refine List.flatMap_congr fun l hl => ?_
  obtain ⟨_, _, hwf⟩ := h.of_mem_leaves l hl
  exact hwf.map_fst_entries

theorem flatMap_snd_entries (h : n.WellFormed levels lower upper) :
    n.entries.flatMap Prod.snd = n.ids := by
  rw [entries, List.flatMap_assoc, ids]
  refine List.flatMap_congr fun l hl => ?_
  obtain ⟨_, _, hwf⟩ := h.of_mem_leaves l hl
  exact hwf.flatMap_snd_entries

theorem keysWithin_entries (h : n.WellFormed levels lower upper) :
    KeysWithin lower upper (n.entries.map Prod.fst) :=
  h.map_fst_entries.symm ▸ h.keysWithin_allKeys

theorem leafAt (h : n.WellFormed levels lower upper) (hl : l ∈ n.leaves) :
    n.LeafAt l n.height := by
  rw [h.height_eq]
  induction h using WellFormed.induction with
  | leaf _ =>
    obtain rfl := List.mem_singleton.1 (leaves_leaf _ ▸ hl)
    exact .here
  | internal hks hcs ih =>
    rw [leaves_internal, List.mem_flatMap] at hl
    obtain ⟨c, hc, hl⟩ := hl
    obtain ⟨_, _, hchild, -⟩ := hcs.exists_of_mem hks hc
    exact .under hc (ih hchild hl)

theorem depth_eq_height (h : n.WellFormed levels lower upper) {depth : Nat}
    (hl : n.LeafAt l depth) : depth = n.height := by
  rw [h.height_eq]
  induction h using WellFormed.induction generalizing depth with
  | leaf _ =>
    cases hl with
    | here => rfl
  | internal hks hcs ih =>
    cases hl with
    | under hc hl =>
      obtain ⟨_, _, hchild, -⟩ := hcs.exists_of_mem hks hc
      rw [ih hchild hl]

end WellFormed

end Node

/-! ### The groups beside the child that covers a key -/

namespace Focus

variable {levels : Nat} {ks : List String} {cs : List Node}

/-- The groups before the child have smaller keys. -/
theorem lt_of_mem_left (f : Focus (Node.WellFormed levels) lower upper key ks cs) :
    ∀ g ∈ f.left.flatMap Node.entries, g.1 < key := by
  intro g hg
  obtain ⟨c, hc, hg⟩ := List.mem_flatMap.1 hg
  obtain ⟨a, b, hwf, hb⟩ := f.left_le c hc
  have hrange := hwf.keysWithin_entries.within g.1 (List.mem_map_of_mem hg)
  exact lt_of_lt_of_le (lt_of_inRange hrange) hb

/-- The groups after the child have larger keys. -/
theorem lt_of_mem_right (f : Focus (Node.WellFormed levels) lower upper key ks cs) :
    ∀ g ∈ f.right.flatMap Node.entries, key < g.1 := by
  intro g hg
  obtain ⟨c, hc, hg⟩ := List.mem_flatMap.1 hg
  obtain ⟨a, b, hwf, ha⟩ := f.lt_right c hc
  have hrange := hwf.keysWithin_entries.within g.1 (List.mem_map_of_mem hg)
  exact lt_of_lt_of_le ha (le_of_inRange hrange)

end Focus

end DogRegistry
