import DogRegistry.Proofs.Basic
import DogRegistry.Proofs.Index.Grouping
import DogRegistry.Proofs.Index.Range

/-!
# Leaves in order

A leaf whose keys are ascending holds one group of row identifiers for every key.  Looking a key up
in it, adding a row identifier and cutting it in two are what they are for the list of its groups.

## Main definitions

* `Leaf.WellFormed lower upper` — the leaf is in order and its keys lie in the range.

## Main results

* `Leaf.search_cases` — halving finds a key, or the place between the smaller and the larger ones.
* `Leaf.WellFormed.get?_eq_lookup` — a look-up answers with the group of the key.
* `Leaf.WellFormed.search_cases` — the same with the lists of row identifiers.
* `Leaf.WellFormed.insert?_spec` — an insertion succeeds and is `addUnder` on the groups.
* `Leaf.WellFormed.cut` — a leaf cut at one of its keys is two leaves in order.
-/

namespace DogRegistry

variable {lower upper : Option String} {key : String}

namespace Leaf

variable {l : Leaf}

/-! ### The place of a key -/

/-- Halving finds the key, or the place where it belongs. -/
theorem search_cases (h : l.keys.Pairwise (· < ·)) (key : String) :
    (∃ as bs, l.keys = as ++ key :: bs ∧ l.search key = .found as.length) ∨
      ∃ as bs, l.keys = as ++ bs ∧ l.search key = .absent as.length ∧
        (∀ a ∈ as, a < key) ∧ ∀ b ∈ bs, key < b := by
  obtain ⟨habove, hfirst⟩ := lastNotAbove_of_sorted (h.imp le_of_lt) key
  unfold search
  split
  next hnone =>
    -- only an empty row has no entry at the position that was found
    have hnil : l.keys = [] := by
      refine Decidable.byContradiction fun hne => ?_
      have hlt := lastNotAbove_lt hne key
      rw [List.getElem?_eq_none_iff] at hnone
      omega
    refine .inr ⟨[], [], hnil, rfl, ?_, ?_⟩ <;> exact fun _ hmem => absurd hmem List.not_mem_nil
  next k hk =>
    obtain ⟨hi, rfl⟩ := List.getElem?_eq_some_iff.1 hk
    generalize lastNotAbove l.keys key = i at *
    have hafter : ∀ b ∈ l.keys.drop (i + 1), key < b := by
      intro b hb
      obtain ⟨j, hj, rfl⟩ := List.mem_drop_iff_getElem.1 hb
      exact habove _ _ (by omega)
    split
    next heq =>
      refine .inl ⟨l.keys.take i, l.keys.drop (i + 1), ?_, ?_⟩
      · rw [← heq, List.getElem_cons_drop, List.take_append_drop]
      · rw [List.length_take_of_le (Nat.le_of_lt hi)]
    next hne =>
      split
      next hlt =>
        refine .inr ⟨l.keys.take (i + 1), l.keys.drop (i + 1), ?_, ?_, ?_, hafter⟩
        · rw [List.take_append_drop]
        · rw [List.length_take_of_le hi]
        · intro a ha
          obtain ⟨j, hj, rfl⟩ := List.mem_take_iff_getElem.1 ha
          rcases Nat.lt_or_eq_of_le (show j ≤ i by omega) with hji | rfl
          · exact lt_trans (List.pairwise_iff_getElem.1 h j i (by omega) hi hji) hlt
          · exact hlt
      next hge =>
        -- the key at the position is above `key`, so it is the first one
        have hzero : i = 0 := hfirst.resolve_right fun hle =>
          hne (le_antisymm (hle hi) (not_lt.1 hge))
        subst hzero
        refine .inr ⟨[], l.keys, rfl, rfl, fun _ hmem => absurd hmem List.not_mem_nil, ?_⟩
        intro b hb
        rw [← List.drop_zero (l := l.keys), ← List.getElem_cons_drop hi] at hb
        rcases List.mem_cons.1 hb with rfl | hb
        · exact lt_of_le_of_ne (not_lt.1 hge) (Ne.symm hne)
        · exact hafter b hb

/-! ### Leaves in order -/

/-- `l.WellFormed lower upper` says the keys of `l` are ascending and lie in the range, and every
one of them has a list of row identifiers that is not empty. -/
structure WellFormed (l : Leaf) (lower upper : Option String) : Prop where
  /-- The keys are in order. -/
  keys : KeysWithin lower upper l.keys
  /-- There is a list of row identifiers for every key. -/
  length_values : l.values.length = l.keys.length
  /-- No key is without row identifiers. -/
  nil_notMem : [] ∉ l.values

theorem wellFormed_empty : ({} : Leaf).WellFormed lower upper :=
  ⟨KeysWithin.nil, rfl, List.not_mem_nil⟩

namespace WellFormed

theorem map_fst_entries (h : l.WellFormed lower upper) : l.entries.map Prod.fst = l.keys := by
  rw [entries, List.map_fst_zip (Nat.le_of_eq h.length_values.symm)]

theorem flatMap_snd_entries (h : l.WellFormed lower upper) :
    l.entries.flatMap Prod.snd = l.ids := by
  rw [List.flatMap_def, entries, List.map_snd_zip (Nat.le_of_eq h.length_values), ids]

/-- The lists of row identifiers are cut where the keys are: a leaf that has the key has a group for
it, and another one has room for one. -/
theorem search_cases (h : l.WellFormed lower upper) (key : String) :
    (∃ as bs vs w ws, l = ⟨as ++ key :: bs, vs ++ w :: ws⟩ ∧ vs.length = as.length ∧
        l.search key = .found as.length) ∨
      ∃ as bs vs ws, l = ⟨as ++ bs, vs ++ ws⟩ ∧ vs.length = as.length ∧
        ws.length = bs.length ∧ l.search key = .absent as.length ∧
        (∀ a ∈ as, a < key) ∧ ∀ b ∈ bs, key < b := by
  have hlength := h.length_values
  rcases Leaf.search_cases h.keys.ascending key with
    ⟨as, bs, hkeys, hs⟩ | ⟨as, bs, hkeys, hs, has, hbs⟩
  · left
    rw [hkeys] at hlength
    obtain ⟨vs, ws, hvalues, hvs, hws⟩ := exists_append_of_length_eq hlength
    obtain ⟨w, ws, rfl⟩ := List.exists_cons_of_length_eq_add_one hws
    exact ⟨as, bs, vs, w, ws, by rw [← hkeys, ← hvalues], hvs, hs⟩
  · right
    rw [hkeys] at hlength
    obtain ⟨vs, ws, hvalues, hvs, hws⟩ := exists_append_of_length_eq hlength
    exact ⟨as, bs, vs, ws, by rw [← hkeys, ← hvalues], hvs, hws, hs, has, hbs⟩

/-- A look-up answers with the group of the key. -/
theorem get?_eq_lookup (h : l.WellFormed lower upper) (key : String) :
    l.get? key = l.entries.lookup key := by
  have hpair : (l.entries.map Prod.fst).Pairwise (· < ·) := by
    rw [h.map_fst_entries]
    exact h.keys.ascending
  rw [get?]
  rcases h.search_cases key with
    ⟨as, bs, vs, w, ws, rfl, hvs, hs⟩ | ⟨as, bs, vs, ws, rfl, -, -, hs, has, hbs⟩
  · have hmem : (key, w) ∈ Leaf.entries ⟨as ++ key :: bs, vs ++ w :: ws⟩ := by
      rw [entries, List.zip_append hvs.symm, List.zip_cons_cons]
      exact List.mem_append_right _ List.mem_cons_self
    rw [hs, (mem_iff_lookup_eq_some hpair (key, w)).1 hmem]
    simp [← hvs]
  · have hne : ∀ g ∈ Leaf.entries ⟨as ++ bs, vs ++ ws⟩, g.1 ≠ key := by
      intro g hg
      rcases List.mem_append.1 (List.of_mem_zip hg).1 with hmem | hmem
      · exact ne_of_lt (has _ hmem)
      · exact ne_of_gt (hbs _ hmem)
    rw [hs, lookup_eq_none_of_ne hne]

/-- An insertion under a key that is there adds to its group. -/
theorem insert?_of_found {as bs : List String} {vs ws : List (List RowId)} {w : List RowId}
    (h : Leaf.WellFormed ⟨as ++ key :: bs, vs ++ w :: ws⟩ lower upper) (hvs : vs.length = as.length)
    (hs : Leaf.search ⟨as ++ key :: bs, vs ++ w :: ws⟩ key = .found as.length) (id : RowId) :
    ∃ l', Leaf.insert? ⟨as ++ key :: bs, vs ++ w :: ws⟩ key id = some l' ∧
      l'.WellFormed lower upper ∧
      l'.entries = addUnder key id (Leaf.entries ⟨as ++ key :: bs, vs ++ w :: ws⟩) := by
  have hset : (vs ++ w :: ws).set as.length (w ++ [id]) = vs ++ (w ++ [id]) :: ws := by
    rw [← hvs, List.set_append_right _ _ (Nat.le_refl _), Nat.sub_self, List.set_cons_zero]
  refine ⟨⟨as ++ key :: bs, vs ++ (w ++ [id]) :: ws⟩, ?_, ⟨h.keys, ?_, ?_⟩, ?_⟩
  · rw [insert?, hs]
    simp [← hvs]
  · rw [← hset, List.length_set]
    exact h.length_values
  · have hnil := h.nil_notMem
    simp only [List.mem_append, List.mem_cons, not_or] at hnil ⊢
    exact ⟨hnil.1, (List.append_ne_nil_of_right_ne_nil w (List.cons_ne_nil id [])).symm, hnil.2.2⟩
  · have hlt : ∀ g ∈ as.zip vs, g.1 < key := by
      intro g hg
      have hbelow := (List.pairwise_append.1 h.keys.ascending).2.2
      exact hbelow g.1 (List.of_mem_zip hg).1 key List.mem_cons_self
    rw [entries, entries, List.zip_append hvs.symm, List.zip_append hvs.symm, List.zip_cons_cons,
      List.zip_cons_cons, addUnder_append_of_lt hlt, addUnder_cons_self]

/-- An insertion under a new key makes a group for it, between those of the smaller and those of the
larger keys. -/
theorem insert?_of_absent {as bs : List String} {vs ws : List (List RowId)}
    (h : Leaf.WellFormed ⟨as ++ bs, vs ++ ws⟩ lower upper) (hvs : vs.length = as.length)
    (hws : ws.length = bs.length)
    (hs : Leaf.search ⟨as ++ bs, vs ++ ws⟩ key = .absent as.length)
    (has : ∀ a ∈ as, a < key) (hbs : ∀ b ∈ bs, key < b) (hkey : inRange lower upper key)
    (id : RowId) :
    ∃ l', Leaf.insert? ⟨as ++ bs, vs ++ ws⟩ key id = some l' ∧ l'.WellFormed lower upper ∧
      l'.entries = addUnder key id (Leaf.entries ⟨as ++ bs, vs ++ ws⟩) := by
  refine ⟨⟨as ++ key :: bs, vs ++ [id] :: ws⟩, ?_, ⟨h.keys.insert hkey has hbs, ?_, ?_⟩, ?_⟩
  · have hroom : as.length ≤ (vs ++ ws).length := by
      rw [List.length_append]
      omega
    have hvalues : (vs ++ ws).insertIdx as.length [id] = vs ++ [id] :: ws := by
      rw [← hvs, insertIdx_length_append]
    rw [insert?, hs]
    simp only [if_pos hroom, insertIdx_length_append, hvalues]
  · simp only [List.length_append, List.length_cons]
    omega
  · have hnil := h.nil_notMem
    simp only [List.mem_append, List.mem_cons, not_or] at hnil ⊢
    exact ⟨hnil.1, (List.cons_ne_nil id []).symm, hnil.2⟩
  · have hlt : ∀ g ∈ as.zip vs, g.1 < key := fun g hg => has g.1 (List.of_mem_zip hg).1
    have hgt : ∀ g ∈ bs.zip ws, key < g.1 := fun g hg => hbs g.1 (List.of_mem_zip hg).1
    rw [entries, entries, List.zip_append hvs.symm, List.zip_append hvs.symm, List.zip_cons_cons,
      addUnder_append_of_lt hlt, addUnder_of_gt hgt]

/-- An insertion finds all that it needs, keeps the leaf in order and adds to the group of the
key. -/
theorem insert?_spec (h : l.WellFormed lower upper) (hkey : inRange lower upper key) (id : RowId) :
    ∃ l', l.insert? key id = some l' ∧ l'.WellFormed lower upper ∧
      l'.entries = addUnder key id l.entries := by
  rcases h.search_cases key with
    ⟨as, bs, vs, w, ws, rfl, hvs, hs⟩ | ⟨as, bs, vs, ws, rfl, hvs, hws, hs, has, hbs⟩
  · exact h.insert?_of_found hvs hs id
  · exact h.insert?_of_absent hvs hws hs has hbs hkey id

/-- A leaf cut at one of its keys is two leaves in order, with the key in the upper one. -/
theorem cut {as bs : List String} {vs ws : List (List RowId)} {sep : String}
    (h : Leaf.WellFormed ⟨as ++ sep :: bs, vs ++ ws⟩ lower upper) (hvs : vs.length = as.length) :
    Leaf.WellFormed ⟨as, vs⟩ lower (some sep) ∧
      Leaf.WellFormed ⟨sep :: bs, ws⟩ (some sep) upper := by
  have hws : ws.length = (sep :: bs).length := by
    have hlength := h.length_values
    simp only [List.length_append] at hlength
    omega
  refine ⟨⟨h.keys.left_of_append, hvs, ?_⟩, ⟨h.keys.right_of_append, hws, ?_⟩⟩
  · exact fun hnil => h.nil_notMem (List.mem_append_left ws hnil)
  · exact fun hnil => h.nil_notMem (List.mem_append_right vs hnil)

end WellFormed

end Leaf

end DogRegistry
