import DogRegistry.Proofs.Index.Contents

/-!
# What a search records

A search takes the only way on which every node covers the key.  Its trace tells this way node by
node: the pointer is the first separator above the key, the range in words is that of the child that
was entered, and no leaf beside the last one can hold the key.

## Main definitions

* `Hop.lower`, `Hop.upper` — the separators on the two sides of the pointer.
* `rangeText lower upper` — a range in words.
* `Node.Path l hops` — the hops lead from a node down to the leaf `l`.
* `Node.IsWay key d` — `d` is the way from a node to `key`.

## Main results

* `Hop.inRange_iff_pointer_eq` — only the pointer to the first separator above a key stands for a
  range that contains it.
* `Hop.range_eq_rangeText` — the words for a pointer name the separators on its two sides.
* `Node.WellFormed.exists_isWay` — the descent below a node in order is the way to the key.
* `Tree.trace_ofEntries` — the trace of every search in a tree filled by insertions.
-/

namespace DogRegistry

open Text

/-! ### Pointers -/

/-- Where the range of the child begins: at the separator in front of the pointer. -/
def Hop.lower (h : Hop) : Option String :=
  match h.pointer with
  | 0 => none
  | i + 1 => h.keys[i]?

/-- Where the range of the child ends: at the separator that the pointer names. -/
def Hop.upper (h : Hop) : Option String :=
  h.keys[h.pointer]?

variable {lower upper : Option String} {key : String} {levels : Nat}

/-- The range between two neighbours contains a key if and only if the upper one is the first
separator above it. -/
theorem Hop.inRange_iff_pointer_eq {ks : List String} {i : Nat} (hks : ks.Pairwise (· < ·))
    (hi : i ≤ ks.length) :
    inRange (Hop.lower ⟨ks, i⟩) (Hop.upper ⟨ks, i⟩) key ↔ i = ks.findIdx fun k => key < k := by
  rw [inRange_iff]
  constructor
  · rintro ⟨hlower, hupper⟩
    -- the separators before the pointer are not above the key, since the last of them is not
    have hbefore : ∀ j (hj : j < ks.length), j < i → ¬ key < ks[j] := by
      intro j hj hji
      cases i with
      | zero => omega
      | succ i =>
        have hle : ks[i] ≤ key := hlower _ (List.getElem?_eq_getElem hi)
        rcases Nat.lt_or_eq_of_le (Nat.le_of_lt_succ hji) with hlt | rfl
        · exact not_lt.2 (le_trans (le_of_lt (List.pairwise_iff_getElem.1 hks j i hj hi hlt)) hle)
        · exact not_lt.2 hle
    rcases Nat.lt_or_eq_of_le hi with hlt | rfl
    · have habove : key < ks[i] := hupper _ (List.getElem?_eq_getElem hlt)
      refine ((List.findIdx_eq hlt).2 ⟨decide_eq_true habove, fun j hj => ?_⟩).symm
      exact decide_eq_false (hbefore j (by omega) hj)
    · refine (List.findIdx_eq_length.2 fun k hk => ?_).symm
      obtain ⟨j, hj, rfl⟩ := List.mem_iff_getElem.1 hk
      exact decide_eq_false (hbefore j hj hj)
  · rintro rfl
    constructor
    · intro lo hlo
      rw [lower] at hlo
      split at hlo
      next => exact absurd hlo (by simp)
      next i hpointer =>
        have hlt : i < ks.findIdx fun k => key < k := by
          rw [show (ks.findIdx fun k => key < k) = i + 1 from hpointer]
          exact Nat.lt_succ_self i
        obtain ⟨hi', rfl⟩ := List.getElem?_eq_some_iff.1 hlo
        exact not_lt.1 (of_decide_eq_false (List.not_of_lt_findIdx hlt))
    · intro hi' hhi
      obtain ⟨hlt, rfl⟩ := List.getElem?_eq_some_iff.1 hhi
      exact of_decide_eq_true (List.findIdx_getElem (w := hlt))

/-- A range of keys in words. -/
def rangeText : Option String → Option String → String
  | none, none => "all keys"
  | none, some hi => s!"< {hi}"
  | some lo, none => s!">= {lo}"
  | some lo, some hi => s!"{lo} <= key < {hi}"

/-- The words for a pointer are the range between its two neighbours. -/
theorem Hop.range_eq_rangeText {h : Hop} (hi : h.pointer ≤ h.keys.length) :
    h.range = rangeText h.lower h.upper := by
  obtain ⟨ks, i⟩ := h
  rw [Hop.range, branchRange, Hop.lower, Hop.upper]
  split
  next hnone =>
    obtain rfl := List.getLast?_eq_none_iff.1 hnone
    obtain rfl : i = 0 := by simpa using hi
    rfl
  next last hlast =>
    rw [List.getLast?_eq_getElem?] at hlast
    cases hupper : ks[i]? with
    | none =>
      -- the pointer lies behind all separators, so the one in front of it is the last
      have hlength : ks.length = i := le_antisymm (List.getElem?_eq_none_iff.1 hupper) hi
      have hpos : ks.length - 1 < ks.length := (List.getElem?_eq_some_iff.1 hlast).1
      cases i with
      | zero => omega
      | succ i =>
        rw [hlength, Nat.add_sub_cancel] at hlast
        simp only [hlast, rangeText]
    | some k =>
      cases i with
      | zero => rfl
      | succ i =>
        have hlt : i < ks.length := hi
        simp only [List.getElem?_eq_getElem hlt, Option.getD_some, rangeText]

/-- The first separator above a key stands behind those that are not above it. -/
theorem childIndex_eq_findIdx {ks : List String} (h : ks.Pairwise (· < ·)) (key : String) :
    childIndex ks key = ks.findIdx fun k => key < k := by
  induction ks with
  | nil => rfl
  | cons k ks ih =>
    rw [childIndex_cons h, List.findIdx_cons, ih (List.pairwise_cons.1 h).2]
    by_cases hk : k ≤ key
    · rw [if_pos hk, decide_eq_false (not_lt.2 hk)]
      rfl
    · rw [if_neg hk, decide_eq_true (not_le.1 hk)]
      rfl

/-! ### Ways -/

namespace Node

/-- `n.Path l hops` says that the hops lead from `n` to the leaf `l`: each of them has the keys of a
node on the way, and its pointer names the next node. -/
inductive Path (l : Leaf) : Node → List Hop → Prop
  /-- A leaf is reached without hops. -/
  | here : Path l (.leaf l) []
  /-- The first hop leads to a child, and the others on from there. -/
  | under {ks : List String} {cs : List Node} {i : Nat} {c : Node} {hops : List Hop}
    (hc : cs[i]? = some c) (h : Path l c hops) : Path l (.internal ks cs) (⟨ks, i⟩ :: hops)

/-- `n.IsWay key d` says that `d` is the way from `n` to `key`. -/
structure IsWay (key : String) (n : Node) (d : Descent) : Prop where
  /-- The way leads down to its leaf. -/
  path : n.Path d.leaf d.hops
  /-- There is one hop for every level above the leaves. -/
  length_hops : d.hops.length + 1 = n.height
  /-- Every pointer is the position of the first separator above the key, and the number of
  separators if there is none. -/
  pointer_eq : ∀ h ∈ d.hops, h.pointer = h.keys.findIdx fun k => key < k
  /-- The range in words is that of the two separators beside the pointer. -/
  range_eq : ∀ h ∈ d.hops, h.range = rangeText h.lower h.upper
  /-- That range contains the key. -/
  covers : ∀ h ∈ d.hops, inRange h.lower h.upper key
  /-- The leaves before the last one have smaller keys, and those after it larger ones. -/
  leaves_eq : ∃ before after, n.leaves = before ++ d.leaf :: after ∧
    (∀ l ∈ before, ∀ k ∈ l.keys, k < key) ∧ ∀ l ∈ after, ∀ k ∈ l.keys, key < k
  /-- No other way has ranges that contain the key. -/
  unique : ∀ l hops, n.Path l hops → (∀ h ∈ hops, inRange h.lower h.upper key) →
    l = d.leaf ∧ hops = d.hops

theorem isWay_leaf (key : String) (l : Leaf) : (Node.leaf l).IsWay key ⟨[], l⟩ where
  path := .here
  length_hops := by simp
  pointer_eq := by simp
  range_eq := by simp
  covers := by simp
  leaves_eq := ⟨[], [], by simp, by simp, by simp⟩
  unique l' hops hpath _ := by
    cases hpath with
    | here => exact ⟨rfl, rfl⟩

/-- The way to a key leads through the child that covers it. -/
theorem IsWay.via {ks : List String} {cs : List Node} {d : Descent}
    (f : Focus (Node.WellFormed levels) lower upper key ks cs) (hks : KeysWithin lower upper ks)
    (hcs : Separated (Node.WellFormed levels) lower upper ks cs) (hd : f.child.IsWay key d) :
    (internal ks cs).IsWay key (d.via ⟨ks, childIndex ks key⟩) := by
  have hpointer := childIndex_eq_findIdx hks.ascending key
  have hle : childIndex ks key ≤ ks.length := hpointer ▸ List.findIdx_le_length
  have hwf : (internal ks cs).WellFormed (levels + 1) lower upper := ⟨hks, hcs⟩
  refine
    { path := .under f.getElem?_children hd.path
      length_hops := ?_
      pointer_eq := List.forall_mem_cons.2 ⟨hpointer, hd.pointer_eq⟩
      range_eq := List.forall_mem_cons.2 ⟨Hop.range_eq_rangeText hle, hd.range_eq⟩
      covers := List.forall_mem_cons.2
        ⟨(Hop.inRange_iff_pointer_eq hks.ascending hle).2 hpointer, hd.covers⟩
      leaves_eq := ?_
      unique := ?_ }
  · rw [hwf.height_eq, ← f.property.height_eq, ← hd.length_hops]
    rfl
  · obtain ⟨before, after, hleaves, hbefore, hafter⟩ := hd.leaves_eq
    refine ⟨f.left.flatMap leaves ++ before, after ++ f.right.flatMap leaves, ?_, ?_, ?_⟩
    · rw [leaves_internal, f.flatMap_children, hleaves]
      simp [Descent.via]
    · intro l hl k hk
      rcases List.mem_append.1 hl with hl | hl
      · obtain ⟨c, hc, hl⟩ := List.mem_flatMap.1 hl
        obtain ⟨a, b, hc, hb⟩ := f.left_le c hc
        have hrange := hc.keysWithin_allKeys.within k (List.mem_flatMap_of_mem hl hk)
        exact lt_of_lt_of_le (lt_of_inRange hrange) hb
      · exact hbefore l hl k hk
    · intro l hl k hk
      rcases List.mem_append.1 hl with hl | hl
      · exact hafter l hl k hk
      · obtain ⟨c, hc, hl⟩ := List.mem_flatMap.1 hl
        obtain ⟨a, b, hc, ha⟩ := f.lt_right c hc
        have hrange := hc.keysWithin_allKeys.within k (List.mem_flatMap_of_mem hl hk)
        exact lt_of_lt_of_le ha (le_of_inRange hrange)
  · intro l hops hpath hall
    cases hpath with
    | @under _ _ i c hops hc hpath =>
      obtain ⟨hcover, hcovers⟩ := List.forall_mem_cons.1 hall
      have hi : i ≤ ks.length := by
        have hlt := (List.getElem?_eq_some_iff.1 hc).1
        rw [hcs.length_eq] at hlt
        omega
      -- the first hop can only be the one that was taken
      obtain rfl : i = childIndex ks key :=
        ((Hop.inRange_iff_pointer_eq hks.ascending hi).1 hcover).trans hpointer.symm
      obtain rfl : f.child = c := Option.some.inj (f.getElem?_children.symm.trans hc)
      obtain ⟨rfl, rfl⟩ := hd.unique l hops hpath hcovers
      exact ⟨rfl, rfl⟩

/-- Below a node in order there is a way to every key of its range, and the descent takes it. -/
theorem WellFormed.exists_isWay {n : Node} (h : n.WellFormed levels lower upper)
    (hkey : inRange lower upper key) : ∃ d, n.descend? key = some d ∧ n.IsWay key d := by
  induction h using WellFormed.induction with
  | @leaf _ _ l _ => exact ⟨⟨[], l⟩, by rw [descend?], isWay_leaf key l⟩
  | internal hks hcs ih =>
    obtain ⟨f⟩ := hcs.exists_focus hks hkey
    obtain ⟨d, hd, hway⟩ := ih f.property f.covers
    refine ⟨_, ?_, hway.via f hks hcs⟩
    rw [descend?, descendAt?_eq, f.getElem?_children, Option.bind_some, hd, Option.map_some]

end Node

/-! ### Traces -/

namespace Tree

/-- What a search records in a tree that is filled by insertions: the root, the internal nodes on
the way to the key, and its leaf twice, the second time with the outcome.  The outcome is that of a
look-up, a match with the row identifiers under the key or none. -/
theorem trace_ofEntries {config : IndexConfig} (hv : config.Valid) (es : List (String × RowId))
    (key : String) :
    let t := ofEntries config es
    ∃ d, t.root.IsWay key d ∧
      (t.search key).trace =
        ⟨.root, "Accessing the B+ tree root",
            some ("Root keys: " ++ ("[" ++ ", ".intercalate t.root.keys ++ "]"))⟩ ::
          (d.hops.map fun h => ⟨.internal, s!"Internal node: searching for '{key}'",
            some s!"Following pointer {h.pointer} (range: {rangeText h.lower h.upper})"⟩) ++
          [⟨.leaf, "Leaf reached: looking for an exact match",
              some ("Leaf keys: " ++ ("[" ++ ", ".intercalate d.leaf.keys ++ "]"))⟩,
            match t.get? key with
            | some ids => ⟨.leaf, s!"Match found for '{key}'",
                some ("Row IDs retrieved: " ++
                  ("[" ++ ", ".intercalate (ids.map RowId.toText) ++ "]"))⟩
            | none => ⟨.leaf, s!"No match found for '{key}'", none⟩] ∧
      (t.search key).trace.map TraceStep.kind =
        .root :: List.replicate (t.height - 1) .internal ++ [.leaf, .leaf] ∧
      (t.search key).rowIds = (t.get? key).getD [] := by
  intro t
  obtain ⟨levels, hroot⟩ := wellFormed_ofEntries hv es
  obtain ⟨d, hd, hway⟩ := hroot.exists_isWay (inRange_none_none key)
  have hget : t.get? key = d.leaf.get? key := by
    rw [get?, Node.get?, hd]
    rfl
  have hsearch : t.search key = ⟨(d.leaf.get? key).getD [], d.trace t.root.keys key⟩ := by
    rw [search, hd]
  have hhops : d.hops.length = t.height - 1 := by
    rw [height, ← hway.length_hops, Nat.add_sub_cancel]
  have hsteps : d.hops.map (Hop.step key) = d.hops.map fun h =>
      ⟨.internal, s!"Internal node: searching for '{key}'",
        some s!"Following pointer {h.pointer} (range: {rangeText h.lower h.upper})"⟩ := by
    refine List.map_congr_left fun h hh => ?_
    rw [Hop.step, hway.range_eq h hh]
  refine ⟨d, hway, ?_, ?_, ?_⟩
  · rw [hsearch, hget, Descent.trace, hsteps]
    cases d.leaf.get? key <;> rfl
  · have hinternal : TraceStep.kind ∘ Hop.step key = fun _ => .internal := rfl
    rw [hsearch, ← hhops, Descent.trace]
    simp only [List.map_cons, List.map_append, List.map_map, hinternal, List.map_const']
    cases d.leaf.get? key <;> rfl
  · rw [hsearch, hget]

/-- A search for the separator of the root passes two internal nodes. -/
theorem trace_ofEntries_threeLevels :
    let t := ofEntries ⟨3, .recursive⟩ [("Akita", .first), ("Beagle", .first), ("Boxer", .first),
      ("Collie", .first), ("Pug", .first), ("Boxer", .last)]
    IndexConfig.Valid ⟨3, .recursive⟩ ∧ t.root.keys = ["Boxer"] ∧
      (t.search "Boxer").trace =
        [⟨.root, "Accessing the B+ tree root", some "Root keys: [Boxer]"⟩,
          ⟨.internal, "Internal node: searching for 'Boxer'",
            some "Following pointer 1 (range: >= Boxer)"⟩,
          ⟨.internal, "Internal node: searching for 'Boxer'",
            some "Following pointer 0 (range: < Collie)"⟩,
          ⟨.leaf, "Leaf reached: looking for an exact match", some "Leaf keys: [Boxer]"⟩,
          ⟨.leaf, "Match found for 'Boxer'",
            some "Row IDs retrieved: [1, 18446744073709551615]"⟩] ∧
      (t.search "Boxer").trace.map TraceStep.kind =
        [.root, .internal, .internal, .leaf, .leaf] ∧
      (t.search "Boxer").rowIds = [.first, .last] := by
  intro t
  have hv : IndexConfig.Valid ⟨3, .recursive⟩ := by decide
  have hkeys : t.root.keys = ["Boxer"] := by decide +kernel
  have hheight : t.height = 3 := by decide +kernel
  have hget : t.get? "Boxer" = some [.first, .last] := by decide +kernel
  obtain ⟨d, hway, htrace, hkinds, hids⟩ := trace_ofEntries hv [("Akita", .first),
    ("Beagle", .first), ("Boxer", .first), ("Collie", .first), ("Pug", .first), ("Boxer", .last)]
    "Boxer"
  have hpath : t.root.Path ⟨["Boxer"], [[.first, .last]]⟩ [⟨["Boxer"], 1⟩, ⟨["Collie"], 0⟩] := by
    have hroot : t.root = .internal ["Boxer"]
        [.internal ["Beagle"] [.leaf ⟨["Akita"], [[.first]]⟩, .leaf ⟨["Beagle"], [[.first]]⟩],
          .internal ["Collie"] [.leaf ⟨["Boxer"], [[.first, .last]]⟩,
            .leaf ⟨["Collie", "Pug"], [[.first], [.first]]⟩]] := by
      decide +kernel
    rw [hroot]
    exact .under rfl (.under rfl .here)
  -- there is one way only with ranges that contain the key
  obtain ⟨hleaf, hhops⟩ := hway.unique _ _ hpath (by decide)
  refine ⟨hv, hkeys, ?_, ?_, ?_⟩
  · rw [htrace, hkeys, hget, ← hleaf, ← hhops]
    decide +kernel
  · rw [hkinds, hheight]
    rfl
  · rw [hids, hget]
    rfl

end Tree

end DogRegistry
