import DogRegistry.Proofs.Index.Contents
import Mathlib.Data.List.Sort

/-!
# The shape of a tree whose root alone is split

Under this policy a tree has one of two shapes.  It is a single leaf until it holds as many distinct
keys as the order says.  Then the leaf is split, once and for all: its two halves take up every
later key, and the root above them has a single key, so it never gets full.

## Main definitions

* `distinctKeys es` — the inserted keys, each where it was inserted first.
* `ascending ks` — the keys in ascending order.
* `Node.RootOnlyShape order ks` — what a root looks like after the distinct keys `ks` came in.
* `Tree.IsSplitAt sep` — a tree of two leaves that hold what is below `sep` and what is not.

## Main results

* `ascending_distinctKeys` — the leaves list the distinct keys in ascending order.
* `Node.RootOnlyShape.insert` — an insertion leaves a root of one of the two shapes.
* `Tree.isSplitAt_ofEntries` — the shape of every tree under this policy.
-/

namespace DogRegistry

variable {order : Nat}

/-! ### The inserted keys -/

/-- The keys of insertions without repetition, in the order in which they came first. -/
def distinctKeys (es : List (String × RowId)) : List String :=
  (es.map Prod.fst).eraseDups

/-- The keys in ascending order. -/
def ascending (ks : List String) : List String :=
  ks.insertionSort (· ≤ ·)

theorem mem_distinctKeys {es : List (String × RowId)} {k : String} :
    k ∈ distinctKeys es ↔ k ∈ es.map Prod.fst :=
  List.mem_eraseDups

/-- Further insertions add to the distinct keys at the end. -/
theorem distinctKeys_prefix (es more : List (String × RowId)) :
    distinctKeys es <+: distinctKeys (es ++ more) := by
  rw [distinctKeys, distinctKeys, List.map_append, List.eraseDups_append]
  exact List.prefix_append _ _

theorem distinctKeys_append_singleton (es : List (String × RowId)) (e : String × RowId) :
    distinctKeys (es ++ [e]) =
      if e.1 ∈ es.map Prod.fst then distinctKeys es else distinctKeys es ++ [e.1] := by
  rw [distinctKeys, distinctKeys, List.map_append, List.eraseDups_append]
  by_cases h : e.1 ∈ es.map Prod.fst
  · simp [h, List.removeAll]
  · simp [h, List.removeAll, List.eraseDups_cons]

theorem length_distinctKeys_append_singleton (es : List (String × RowId)) (e : String × RowId) :
    (distinctKeys (es ++ [e])).length ≤ (distinctKeys es).length + 1 := by
  rw [distinctKeys_append_singleton]
  split <;> simp

theorem nodup_distinctKeys (es : List (String × RowId)) : (distinctKeys es).Nodup := by
  induction es using List.reverseRecOn with
  | nil => exact List.nodup_nil
  | append_singleton es e ih =>
    rw [distinctKeys_append_singleton]
    split
    next => exact ih
    next hnew =>
      refine List.nodup_append.2 ⟨ih, List.nodup_singleton _, fun a ha b hb => ?_⟩
      rintro rfl
      rw [List.mem_singleton] at hb
      exact hnew (hb ▸ mem_distinctKeys.1 ha)

/-- The keys of the groups are the distinct inserted keys in ascending order. -/
theorem ascending_distinctKeys (es : List (String × RowId)) :
    ascending (distinctKeys es) = (grouped es).map Prod.fst := by
  have hgrouped := pairwise_grouped es
  refine List.Perm.eq_of_pairwise (fun a b _ _ => le_antisymm) (List.pairwise_insertionSort _ _)
    (hgrouped.imp le_of_lt) ?_
  refine (List.perm_insertionSort _ _).trans ?_
  rw [List.perm_ext_iff_of_nodup (nodup_distinctKeys es) (hgrouped.imp ne_of_lt)]
  intro k
  rw [mem_distinctKeys, mem_keys_grouped]

/-! ### The two shapes -/

namespace Node

/-- `n.RootOnlyShape order ks` says what the root `n` looks like after the distinct keys `ks` have
been inserted, where only the root is split. -/
inductive RootOnlyShape (order : Nat) (ks : List String) : Node → Prop
  /-- With fewer keys than the order, the root is a leaf. -/
  | single {l : Leaf} (hlt : ks.length < order) : RootOnlyShape order ks (.leaf l)
  /-- From then on it has two leaves, and between them the middle one of the first keys. -/
  | split {sep : String} {left right : Leaf} (hle : order ≤ ks.length)
    (hsep : (ascending (ks.take order))[order / 2]? = some sep) :
    RootOnlyShape order ks (.internal [sep] [.leaf left, .leaf right])

theorem RootOnlyShape.exists_leaf {n : Node} {ks : List String} (h : n.RootOnlyShape order ks)
    (hlt : ks.length < order) : ∃ l : Leaf, n = .leaf l := by
  cases h with
  | @single l _ => exact ⟨l, rfl⟩
  | split hle _ => omega

theorem RootOnlyShape.exists_split {n : Node} {ks : List String} (h : n.RootOnlyShape order ks)
    (hle : order ≤ ks.length) :
    ∃ sep, ∃ left right : Leaf, (ascending (ks.take order))[order / 2]? = some sep ∧
      n = .internal [sep] [.leaf left, .leaf right] := by
  cases h with
  | single hlt => omega
  | @split sep left right _ hsep => exact ⟨sep, left, right, hsep, rfl⟩

/-- Without splits two leaves stay two leaves. -/
theorem insertInLeaf?_twoLeaves {sep key : String} {id : RowId} {left right : Leaf} {n : Node}
    (hn : (internal [sep] [.leaf left, .leaf right]).insertInLeaf? key id = some n) :
    ∃ left' right' : Leaf, n = .internal [sep] [.leaf left', .leaf right'] := by
  rw [insertInLeaf?, insertInLeafAt?_eq] at hn
  generalize childIndex [sep] key = i at hn
  obtain ⟨cs', hcs', rfl⟩ := Option.map_eq_some_iff.1 hn
  obtain ⟨c, hc, hchild⟩ := Option.bind_eq_some_iff.1 hcs'
  obtain ⟨c', hc', rfl⟩ := Option.map_eq_some_iff.1 hchild
  clear hcs' hchild hn
  rcases i with _ | _ | i
  · obtain rfl := Option.some.inj hc
    rw [insertInLeaf?] at hc'
    obtain ⟨left', -, rfl⟩ := Option.map_eq_some_iff.1 hc'
    exact ⟨left', right, rfl⟩
  · obtain rfl := Option.some.inj hc
    rw [insertInLeaf?] at hc'
    obtain ⟨right', -, rfl⟩ := Option.map_eq_some_iff.1 hc'
    exact ⟨left, right', rfl⟩
  · exact absurd hc (by simp)

/-- What a leaf in order becomes once it holds the keys `ks`. -/
theorem rootOnlyShape_of_splitIfFull? {ks : List String} {l : Leaf} {g : Growth}
    (hwf : l.WellFormed none none) (ho : 2 ≤ order) (hkeys : l.keys = ascending ks)
    (hle : ks.length ≤ order) (hg : (Node.leaf l).splitIfFull? order = some g) :
    g.root.RootOnlyShape order ks := by
  have hlength : l.keys.length = ks.length := by
    rw [hkeys]
    exact List.length_insertionSort _ _
  rw [splitIfFull?] at hg
  split at hg
  next hroom =>
    obtain rfl := Option.some.inj hg
    exact .single (hlength ▸ hroom)
  next hfull =>
    have horder : l.keys.length = order := by
      rw [keys] at hfull
      omega
    obtain ⟨s, hs, hhalves⟩ := (Splittable.leaf (horder ▸ ho) hwf.length_values).exists_hasHalves
    rw [hs, Option.map_some] at hg
    obtain rfl := Option.some.inj hg
    cases hhalves with
    | leaf _ _ half =>
      refine .split (by omega) ?_
      -- the leaf holds no other keys than the first ones
      rw [List.take_of_length_le hle, ← hkeys, ← horder, ← half]
      simp

/-- An insertion leaves a root of one of the two shapes. -/
theorem RootOnlyShape.insert {es : List (String × RowId)} {e : String × RowId} {root n : Node}
    {levels : Nat} {g : Growth} (h : root.RootOnlyShape order (distinctKeys es)) (ho : 2 ≤ order)
    (hn : root.insertInLeaf? e.1 e.2 = some n) (hwf : n.WellFormed levels none none)
    (hentries : n.entries = grouped (es ++ [e])) (hg : n.splitIfFull? order = some g) :
    g.root.RootOnlyShape order (distinctKeys (es ++ [e])) := by
  have hprefix := distinctKeys_prefix es [e]
  cases h with
  | @single l hlt =>
    have hle : (distinctKeys (es ++ [e])).length ≤ order :=
      (length_distinctKeys_append_singleton es e).trans hlt
    rw [insertInLeaf?] at hn
    obtain ⟨l', -, rfl⟩ := Option.map_eq_some_iff.1 hn
    obtain ⟨-, hl'⟩ := hwf.of_leaf
    have hkeys : l'.keys = ascending (distinctKeys (es ++ [e])) := by
      rw [ascending_distinctKeys, ← hentries, entries_leaf, hl'.map_fst_entries]
    exact rootOnlyShape_of_splitIfFull? hl' ho hkeys hle hg
  | @split sep left right hle hsep =>
    obtain ⟨left', right', rfl⟩ := insertInLeaf?_twoLeaves hn
    -- a root with a single key is not full
    have hroom : (internal [sep] [.leaf left', .leaf right']).keys.length < order := ho
    rw [splitIfFull?, if_pos hroom] at hg
    obtain rfl := Option.some.inj hg
    refine .split (hle.trans hprefix.length_le) ?_
    obtain ⟨later, hlater⟩ := hprefix
    rw [← hlater, List.take_append_of_le_length hle]
    exact hsep

end Node

namespace Tree

theorem rootOnlyShape_ofEntries (ho : 3 ≤ order) (es : List (String × RowId)) :
    (ofEntries ⟨order, .rootOnly⟩ es).root.RootOnlyShape order (distinctKeys es) := by
  have hv : IndexConfig.Valid ⟨order, .rootOnly⟩ := ho
  refine ofEntries_induction (P := fun es t => t.root.RootOnlyShape order (distinctKeys es))
    hv ?_ ?_ es
  · refine .single ?_
    show 0 < order
    omega
  · intro es t e hconfig hwf hentries ih
    obtain ⟨levels, hroot⟩ := hwf
    obtain ⟨n, hn, hnwf, hadded⟩ := hroot.insertInLeaf?_spec (inRange_none_none e.1) e.2
    obtain ⟨g, hg, -⟩ := hnwf.splitIfFull?_spec (show 2 ≤ order by omega)
    have hpolicy : t.config.policy = .rootOnly := by rw [hconfig]
    have horder : n.splitIfFull? t.config.order = some g := by rw [hconfig, hg]
    have hgrouped : n.entries = grouped (es ++ [e]) := by
      rw [hadded, grouped_append_singleton, ← hentries, Tree.entries]
    rw [insert, insert?_of_rootOnly hpolicy hn horder, Option.getD_some]
    exact ih.insert (by omega) hn hnwf hgrouped hg

/-- `t.IsSplitAt sep` says that `t` is a root with the single key `sep` above two leaves: the left
one holds the keys below `sep`, and the right one those from `sep` on. -/
def IsSplitAt (sep : String) (t : Tree) : Prop :=
  t.height = 2 ∧ ∃ left right : Leaf, t.root = .internal [sep] [.leaf left, .leaf right] ∧
    left.keys = t.allKeys.filter (fun k => k < sep) ∧
    right.keys = t.allKeys.filter fun k => sep ≤ k

/-- Two leaves in order are told apart by the key between them. -/
theorem WellFormed.isSplitAt {t : Tree} (h : t.WellFormed) {sep : String} {left right : Leaf}
    (hroot : t.root = .internal [sep] [.leaf left, .leaf right]) : t.IsSplitAt sep := by
  obtain ⟨levels, hwf⟩ := h
  have hkeys : t.allKeys = left.keys ++ right.keys := by
    rw [allKeys, hroot]
    simp
  have hheight : t.height = 2 := by
    rw [height, hroot]
    simp
  rw [hroot] at hwf
  obtain ⟨below, -, -, hcs⟩ := hwf.exists_of_internal
  obtain ⟨hleft, hright⟩ : (Node.leaf left).WellFormed below none (some sep) ∧
      (Node.leaf right).WellFormed below (some sep) none := by
    cases hcs with
    | cons hleft others =>
      cases others with
      | last hright => exact ⟨hleft, hright⟩
  have hbelow : ∀ k ∈ left.keys, k < sep := fun k hk =>
    lt_of_inRange (hleft.of_leaf.2.keys.within k hk)
  have habove : ∀ k ∈ right.keys, sep ≤ k := fun k hk =>
    le_of_inRange (hright.of_leaf.2.keys.within k hk)
  refine ⟨hheight, left, right, hroot, ?_, ?_⟩
  · rw [hkeys, List.filter_append, List.filter_eq_self.2, List.filter_eq_nil_iff.2,
      List.append_nil]
    · exact fun k hk hlt => absurd (of_decide_eq_true hlt) (not_lt.2 (habove k hk))
    · exact fun k hk => decide_eq_true (hbelow k hk)
  · rw [hkeys, List.filter_append, List.filter_eq_nil_iff.2, List.filter_eq_self.2,
      List.nil_append]
    · exact fun k hk => decide_eq_true (habove k hk)
    · exact fun k hk hle => absurd (of_decide_eq_true hle) (not_le.2 (hbelow k hk))

/-- The shape of a tree under the policy that splits the root alone.  With fewer distinct keys than
the order it is a single leaf that holds all of them.  With as many or more it is a root with a
single key above two leaves.  That key is the middle one of the first distinct keys, as many of them
as the order says, and whatever is inserted later, it stays where it is: the left leaf holds the
stored keys below it and the right leaf the others. -/
theorem isSplitAt_ofEntries (ho : 3 ≤ order) (es : List (String × RowId)) :
    (ofEntries ⟨order, .rootOnly⟩ es).allKeys = ascending (distinctKeys es) ∧
      ((distinctKeys es).length < order → ∃ l : Leaf,
        (ofEntries ⟨order, .rootOnly⟩ es).root = .leaf l ∧
          l.keys = ascending (distinctKeys es)) ∧
      (order ≤ (distinctKeys es).length → ∃ sep,
        (ascending ((distinctKeys es).take order))[order / 2]? = some sep ∧
          ∀ more, (ofEntries ⟨order, .rootOnly⟩ (es ++ more)).IsSplitAt sep) := by
  have hv : IndexConfig.Valid ⟨order, .rootOnly⟩ := ho
  have hkeys : (ofEntries ⟨order, .rootOnly⟩ es).allKeys = ascending (distinctKeys es) := by
    rw [allKeys_eq_map_entries (wellFormed_ofEntries hv es), entries_ofEntries hv,
      ascending_distinctKeys]
  have hshape := rootOnlyShape_ofEntries ho es
  refine ⟨hkeys, fun hlt => ?_, fun hle => ?_⟩
  · obtain ⟨l, hroot⟩ := hshape.exists_leaf hlt
    refine ⟨l, hroot, ?_⟩
    rw [← hkeys, allKeys, hroot, Node.allKeys_leaf]
  · obtain ⟨sep, _, _, hsep, -⟩ := hshape.exists_split hle
    refine ⟨sep, hsep, fun more => ?_⟩
    -- the first keys are the same ones after all later insertions
    obtain ⟨later, hlater⟩ := distinctKeys_prefix es more
    have hle' : order ≤ (distinctKeys (es ++ more)).length := by
      rw [← hlater, List.length_append]
      exact Nat.le_add_right_of_le hle
    obtain ⟨sep', left, right, hsep', hroot⟩ :=
      (rootOnlyShape_ofEntries ho (es ++ more)).exists_split hle'
    rw [← hlater, List.take_append_of_le_length hle, hsep] at hsep'
    obtain rfl := Option.some.inj hsep'
    exact (wellFormed_ofEntries hv (es ++ more)).isSplitAt hroot

/-- The middle one of the first three keys stays the separator, though three smaller keys and its
own repetition follow. -/
theorem isSplitAt_ofEntries_boxer :
    3 ≤ 3 ∧ (ofEntries ⟨3, .rootOnly⟩ ([("Pug", .first), ("Akita", .first), ("Akita", .last),
        ("Boxer", .first)] ++ [("Beagle", .first), ("Boxer", .last), ("Afghan", .first),
        ("Basenji", .first)])).IsSplitAt "Boxer" := by
  obtain ⟨-, -, hsplit⟩ := isSplitAt_ofEntries (Nat.le_refl 3) [("Pug", .first),
    ("Akita", .first), ("Akita", .last), ("Boxer", .first)]
  obtain ⟨sep, hsep, hlater⟩ := hsplit (by decide)
  have hboxer : (ascending ((distinctKeys [("Pug", .first), ("Akita", .first), ("Akita", .last),
      ("Boxer", .first)]).take 3))[3 / 2]? = some "Boxer" := by decide +kernel
  obtain rfl := Option.some.inj (hsep.symm.trans hboxer)
  exact ⟨Nat.le_refl 3, hlater _⟩

end Tree

end DogRegistry
