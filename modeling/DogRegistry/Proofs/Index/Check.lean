import DogRegistry.Proofs.Basic
import DogRegistry.Proofs.Index.Contents

/-!
# The check of a tree

The check accepts a tree exactly if the tree is in order.  So an insertion into a tree that passes
the check finds every part that it needs and leaves a tree that passes it again.

## Main definitions

* `Tree.Balanced` — all leaves lie at the depth that is the height.

## Main results

* `Node.check_eq_ok_iff` — the check of a node, which hands the depth of the leaves on.
* `Tree.check_eq_ok_iff` — the check of a tree decides `Tree.WellFormed`.
* `Tree.check_insert` — insertion never fails and keeps the check.
-/

namespace DogRegistry

variable {lower upper : Option String} {depth : Nat} {leafDepth out : Option Nat}

/-! ### Leaves -/

theorem Leaf.check_eq_ok_iff {l : Leaf} :
    l.check depth leafDepth = .ok out ↔
      (l.values.length = l.keys.length ∧ [] ∉ l.values) ∧ leafDepth.getD depth = depth ∧
        out = some depth := by
  have hempty : l.values.any List.isEmpty ↔ [] ∈ l.values := by
    simp [List.any_eq_true, List.isEmpty_iff]
  rw [check]
  by_cases hlen : l.values.length = l.keys.length
  · by_cases hnil : [] ∈ l.values
    · simp [hlen, hempty.2 hnil, hnil]
    · by_cases hdepth : leafDepth.getD depth = depth
      · simp [hlen, Bool.eq_false_iff.2 fun h => hnil (hempty.1 h), hnil, hdepth, eq_comm]
      · simp [hlen, Bool.eq_false_iff.2 fun h => hnil (hempty.1 h), hnil, hdepth]
  · simp [hlen]

/-! ### Nodes -/

namespace Node

/-- Induction over all nodes, in order or not: what holds of a node if it holds of its children
holds of every node. -/
@[elab_as_elim]
theorem children_induction {motive : Node → Prop} (leaf : ∀ l, motive (.leaf l))
    (internal : ∀ ks cs, (∀ c ∈ cs, motive c) → motive (.internal ks cs)) (n : Node) : motive n :=
  @Node.rec motive (fun cs => ∀ c ∈ cs, motive c) leaf internal
    (fun _ hc => absurd hc List.not_mem_nil)
    (fun _ _ hc hcs => List.forall_mem_cons.2 ⟨hc, hcs⟩) n

/-- The check of the children, provided that it is known for each of them. -/
theorem checkChildren_eq_ok_iff {ks : List String} {cs : List Node}
    (hlen : cs.length = ks.length + 1)
    (hcheck : ∀ c ∈ cs, ∀ (lower upper : Option String) (leafDepth out : Option Nat),
      check lower upper depth c leafDepth = .ok out ↔ ∃ levels, c.WellFormed levels lower upper ∧
        leafDepth.getD (depth + levels) = depth + levels ∧ out = some (depth + levels)) :
    checkChildren lower upper depth ks cs leafDepth = .ok out ↔
      ∃ levels, Separated (WellFormed levels) lower upper ks cs ∧
        leafDepth.getD (depth + levels) = depth + levels ∧ out = some (depth + levels) := by
  induction cs generalizing ks lower leafDepth with
  | nil => simp at hlen
  | cons c cs ih =>
    have hc := hcheck c List.mem_cons_self
    cases ks with
    | nil =>
      obtain rfl : cs = [] := by simpa using hlen
      rw [checkChildren, bind_eq_ok_iff]
      simp only [checkChildren, hc]
      constructor
      · rintro ⟨out', ⟨levels, hwf, hdepth, rfl⟩, hout⟩
        exact ⟨levels, .last hwf, hdepth, (Except.ok.inj hout).symm⟩
      · rintro ⟨levels, hwf, hdepth, rfl⟩
        cases hwf with
        | last child => exact ⟨_, ⟨levels, child, hdepth, rfl⟩, rfl⟩
    | cons k ks =>
      have hlen' : cs.length = ks.length + 1 := by simpa using hlen
      rw [checkChildren, bind_eq_ok_iff]
      simp only [hc, ih hlen' fun c hc => hcheck c (List.mem_cons_of_mem _ hc)]
      constructor
      · -- the first child fixes the depth that the others are compared with
        rintro ⟨out', ⟨levels, hwf, hdepth, rfl⟩, levels', hwf', hdepth', rfl⟩
        obtain rfl : levels = levels' := by
          rw [Option.getD_some] at hdepth'
          omega
        exact ⟨levels, .cons hwf hwf', hdepth, rfl⟩
      · rintro ⟨levels, hwf, hdepth, rfl⟩
        cases hwf with
        | cons child others =>
          exact ⟨_, ⟨levels, child, hdepth, rfl⟩, levels, others, rfl, rfl⟩

/-- The check accepts the nodes that are in order with their leaves at the depth seen before, and
hands that depth on. -/
theorem check_eq_ok_iff (n : Node) (lower upper : Option String) (depth : Nat)
    (leafDepth out : Option Nat) :
    check lower upper depth n leafDepth = .ok out ↔ ∃ levels, n.WellFormed levels lower upper ∧
      leafDepth.getD (depth + levels) = depth + levels ∧ out = some (depth + levels) := by
  induction n using children_induction generalizing lower upper depth leafDepth out with
  | leaf l =>
    rw [check, bind_unit_eq_ok_iff, checkKeys_eq_ok_iff, Leaf.check_eq_ok_iff]
    constructor
    · rintro ⟨hkeys, ⟨hlen, hnil⟩, hdepth, rfl⟩
      exact ⟨0, ⟨hkeys, hlen, hnil⟩, hdepth, rfl⟩
    · rintro ⟨levels, hwf, hdepth, rfl⟩
      obtain ⟨rfl, hl⟩ := hwf.of_leaf
      exact ⟨hl.keys, ⟨hl.length_values, hl.nil_notMem⟩, hdepth, rfl⟩
  | internal ks cs ih =>
    rw [check, bind_unit_eq_ok_iff, checkKeys_eq_ok_iff]
    by_cases hlen : cs.length = ks.length + 1
    · rw [if_neg (not_not_intro hlen)]
      show _ ∧ checkChildren lower upper (depth + 1) ks cs leafDepth = _ ↔ _
      rw [checkChildren_eq_ok_iff hlen fun c hc lower upper => ih c hc lower upper (depth + 1)]
      constructor
      · -- the children are one level deeper and have one level fewer below them
        rintro ⟨hks, levels, hcs, hdepth, rfl⟩
        have hadd : depth + 1 + levels = depth + (levels + 1) := by omega
        rw [hadd] at hdepth ⊢
        exact ⟨levels + 1, ⟨hks, hcs⟩, hdepth, rfl⟩
      · rintro ⟨levels, hwf, hdepth, rfl⟩
        obtain ⟨levels, rfl, hks, hcs⟩ := hwf.exists_of_internal
        have hadd : depth + (levels + 1) = depth + 1 + levels := by omega
        rw [hadd] at hdepth ⊢
        exact ⟨hks, levels, hcs, hdepth, rfl⟩
    · rw [if_pos hlen]
      refine iff_of_false ?_ ?_
      · intro h
        obtain ⟨_, ⟨⟩, -⟩ := bind_eq_ok_iff.1 h.2
      · rintro ⟨levels, hwf, -⟩
        obtain ⟨_, -, -, hcs⟩ := hwf.exists_of_internal
        exact hlen hcs.length_eq

end Node

/-- A leaf that lies below a node is one of its leaves. -/
theorem Node.LeafAt.mem_leaves {n : Node} {l : Leaf} (h : n.LeafAt l depth) : l ∈ n.leaves := by
  induction h with
  | here => rw [leaves_leaf, List.mem_singleton]
  | under hc _ ih =>
    rw [leaves_internal, List.mem_flatMap]
    exact ⟨_, hc, ih⟩

/-! ### Trees -/

namespace Tree

variable {t : Tree}

/-- The check accepts exactly the trees in order. -/
theorem check_eq_ok_iff : t.check = .ok () ↔ t.WellFormed := by
  rw [check, bind_eq_ok_iff, WellFormed]
  constructor
  · rintro ⟨out, hout, -⟩
    obtain ⟨levels, hroot, -⟩ := (Node.check_eq_ok_iff _ _ _ _ _ _).1 hout
    exact ⟨levels, hroot⟩
  · rintro ⟨levels, hroot⟩
    exact ⟨_, (Node.check_eq_ok_iff _ _ _ _ _ _).2 ⟨levels, hroot, rfl, rfl⟩, rfl⟩

/-- `t.Balanced` says the leaves of `t` are what lies at the depth that is the height, and nowhere
else are leaves. -/
def Balanced (t : Tree) : Prop :=
  ∀ l depth, t.root.LeafAt l depth ↔ l ∈ t.root.leaves ∧ depth = t.height

theorem WellFormed.balanced (h : t.WellFormed) : t.Balanced := by
  obtain ⟨levels, hroot⟩ := h
  intro l depth
  constructor
  · exact fun hl => ⟨hl.mem_leaves, hroot.depth_eq_height hl⟩
  · rintro ⟨hl, rfl⟩
    exact hroot.leafAt hl

/-- Whatever tree passes the check has all of its leaves at the depth that is its height, and an
insertion into it finds all that it needs and leaves a tree that passes the check again.  So does
every run of insertions into the empty tree. -/
theorem check_insert {config : IndexConfig} (hv : config.Valid) :
    (∀ t : Tree, t.config = config → t.check = .ok () → t.Balanced ∧ ∀ key id,
        ∃ t', t.insert? key id = some t' ∧ t'.config = config ∧ t'.check = .ok ()) ∧
      ∀ es : List (String × RowId),
        es.foldlM (fun (t : Tree) e => t.insert? e.1 e.2) (empty config) =
            some (ofEntries config es) ∧
          (ofEntries config es).check = .ok () ∧ (ofEntries config es).Balanced := by
  constructor
  · rintro t rfl hcheck
    have hwf := check_eq_ok_iff.1 hcheck
    refine ⟨hwf.balanced, fun key id => ?_⟩
    obtain ⟨t', ht', hconfig, hwf', -⟩ := insert?_spec hwf hv key id
    exact ⟨t', ht', hconfig, check_eq_ok_iff.2 hwf'⟩
  · intro es
    have hwf := wellFormed_ofEntries hv es
    exact ⟨foldlM_insert?_ofEntries hv es, check_eq_ok_iff.2 hwf, hwf.balanced⟩

/-- A tree with two leaves, the second of which has room for no further key under order three. -/
def twoLeaves : Tree :=
  ⟨.internal ["Boxer"]
    [.leaf ⟨["Akita", "Beagle"], [[.first], [.first]]⟩,
      .leaf ⟨["Boxer", "Pug"], [[.first, .last], [.last]]⟩], ⟨3, .recursive⟩⟩

theorem check_insert_twoLeaves :
    IndexConfig.Valid ⟨3, .recursive⟩ ∧ twoLeaves.check = .ok () ∧
      ∃ t', twoLeaves.insert? "Poodle" .first = some t' ∧ t'.check = .ok () := by
  have hv : IndexConfig.Valid ⟨3, .recursive⟩ := by decide
  have hcheck : twoLeaves.check = .ok () := by rfl
  obtain ⟨t', ht', -, hcheck'⟩ :=
    ((check_insert hv).1 twoLeaves rfl hcheck).2 "Poodle" .first
  exact ⟨hv, hcheck, t', ht', hcheck'⟩

end Tree

end DogRegistry
