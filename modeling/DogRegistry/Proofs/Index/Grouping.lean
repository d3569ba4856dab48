import DogRegistry.RowId
import Mathlib.Data.List.Dedup
import Mathlib.Data.List.Induction
import Mathlib.Data.String.Basic

/-!
# Row identifiers grouped by key

What an index has to hold, said without trees: the keys in ascending order, each with the row
identifiers that were inserted under it, in the order of their insertion.

## Main definitions

* `idsUnder es key` — the row identifiers inserted under `key`.
* `addUnder key id gs` — adds a row identifier to groups that are in ascending order.
* `grouped es` — the groups that the insertions `es` leave behind.

## Main results

* `addUnder_append_of_lt`, `addUnder_append_of_gt` — an addition leaves the groups of smaller and of
  larger keys alone.
* `pairwise_grouped`, `mem_keys_grouped` — the keys are the distinct inserted ones, ascending.
* `lookup_grouped` — the group of a key is `idsUnder`.
-/

namespace DogRegistry

/-- The row identifiers that are inserted under `key`, in the order of their insertion. -/
def idsUnder (es : List (String × RowId)) (key : String) : List RowId :=
  (es.filter fun e => e.1 == key).map Prod.snd

/-- Adds a row identifier behind those of its key, or with a group of its own in front of the larger
keys. -/
def addUnder (key : String) (id : RowId) :
    List (String × List RowId) → List (String × List RowId)
  | [] => [(key, [id])]
  | g :: gs =>
    if g.1 < key then g :: addUnder key id gs
    else if g.1 = key then (key, g.2 ++ [id]) :: gs
    else (key, [id]) :: g :: gs

/-- The groups that insertions leave behind when they are made one after the other. -/
def grouped (es : List (String × RowId)) : List (String × List RowId) :=
  es.foldl (fun gs e => addUnder e.1 e.2 gs) []

/-! ### One addition -/

theorem addUnder_cons_self (key : String) (id : RowId) (ids : List RowId)
    (gs : List (String × List RowId)) :
    addUnder key id ((key, ids) :: gs) = (key, ids ++ [id]) :: gs := by
  rw [addUnder, if_neg (lt_irrefl key), if_pos rfl]

theorem addUnder_append_of_lt {key : String} {as : List (String × List RowId)}
    (h : ∀ g ∈ as, g.1 < key) (id : RowId) (bs : List (String × List RowId)) :
    addUnder key id (as ++ bs) = as ++ addUnder key id bs := by
  induction as with
  | nil => rfl
  | cons a as ih =>
    have ha : a.1 < key := h a List.mem_cons_self
    rw [List.cons_append, addUnder, if_pos ha, ih fun g hg => h g (List.mem_cons_of_mem a hg)]
    rfl

theorem addUnder_of_gt {key : String} {bs : List (String × List RowId)}
    (h : ∀ g ∈ bs, key < g.1) (id : RowId) : addUnder key id bs = (key, [id]) :: bs := by
  cases bs with
  | nil => rfl
  | cons b bs =>
    have hb : key < b.1 := h b List.mem_cons_self
    rw [addUnder, if_neg (lt_asymm hb), if_neg (ne_of_gt hb)]

theorem addUnder_append_of_gt {key : String} {bs : List (String × List RowId)}
    (h : ∀ g ∈ bs, key < g.1) (id : RowId) (as : List (String × List RowId)) :
    addUnder key id (as ++ bs) = addUnder key id as ++ bs := by
  induction as with
  | nil => rw [List.nil_append, addUnder_of_gt h]; rfl
  | cons a as ih =>
    rw [List.cons_append, addUnder, addUnder, ih]
    split
    · rfl
    · split <;> rfl

theorem mem_keys_addUnder {key k : String} {id : RowId} {gs : List (String × List RowId)} :
    k ∈ (addUnder key id gs).map Prod.fst ↔ k = key ∨ k ∈ gs.map Prod.fst := by
  induction gs with
  | nil => simp [addUnder]
  | cons g gs ih =>
    rw [addUnder]
    split
    · rw [List.map_cons, List.mem_cons, ih, List.map_cons, List.mem_cons]
      exact or_left_comm
    · split
      next h => rw [List.map_cons, List.mem_cons, List.map_cons, List.mem_cons, h, or_self_left]
      next => rw [List.map_cons, List.mem_cons]

theorem pairwise_addUnder {key : String} {id : RowId} {gs : List (String × List RowId)}
    (h : (gs.map Prod.fst).Pairwise (· < ·)) :
    ((addUnder key id gs).map Prod.fst).Pairwise (· < ·) := by
  induction gs with
  | nil => exact List.pairwise_singleton _ _
  | cons g gs ih =>
    obtain ⟨hg, hgs⟩ := List.pairwise_cons.1 h
    rw [addUnder]
    split
    next hlt =>
      -- the keys behind the first one are the old ones and the new one, all of them larger
      refine List.pairwise_cons.2 ⟨?_, ih hgs⟩
      intro k hk
      rcases mem_keys_addUnder.1 hk with rfl | hk
      · exact hlt
      · exact hg k hk
    next hge =>
      split
      next heq =>
        rw [← heq]
        exact h
      next hne =>
        have hkey : key < g.1 := lt_of_le_of_ne (not_lt.1 hge) (Ne.symm hne)
        refine List.pairwise_cons.2 ⟨?_, h⟩
        intro k hk
        rcases List.mem_cons.1 hk with rfl | hk
        · exact hkey
        · exact lt_trans hkey (hg k hk)

theorem lookup_eq_none_of_ne {key : String} {gs : List (String × List RowId)}
    (h : ∀ g ∈ gs, g.1 ≠ key) : gs.lookup key = none := by
  rw [List.lookup_eq_none_iff]
  intro g hg
  exact bne_iff_ne.2 (h g hg).symm

theorem lookup_cons_eq_ite (g : String × List RowId) (gs : List (String × List RowId))
    (k : String) : (g :: gs).lookup k = if k = g.1 then some g.2 else gs.lookup k := by
  rw [List.lookup_cons]
  by_cases h : k = g.1
  · rw [if_pos h, beq_iff_eq.2 h]
  · rw [if_neg h, beq_false_of_ne h]

/-- An addition changes the group of its own key and no other. -/
theorem lookup_addUnder {key : String} {id : RowId} {gs : List (String × List RowId)}
    (h : (gs.map Prod.fst).Pairwise (· < ·)) (k : String) :
    (addUnder key id gs).lookup k =
      if k = key then some ((gs.lookup key).getD [] ++ [id]) else gs.lookup k := by
  induction gs with
  | nil => exact lookup_cons_eq_ite (key, [id]) [] k
  | cons g gs ih =>
    obtain ⟨hg, hgs⟩ := List.pairwise_cons.1 h
    rw [addUnder]
    split
    next hlt =>
      rw [lookup_cons_eq_ite, ih hgs, lookup_cons_eq_ite, lookup_cons_eq_ite, if_neg (ne_of_gt hlt)]
      by_cases hk : k = g.1
      · rw [if_pos hk, if_neg (hk ▸ ne_of_lt hlt), if_pos hk]
      · rw [if_neg hk, if_neg hk]
    next hge =>
      split
      next heq =>
        rw [lookup_cons_eq_ite, lookup_cons_eq_ite, lookup_cons_eq_ite, if_pos heq.symm, heq]
        by_cases hk : k = key
        · rw [if_pos hk, if_pos hk]
          rfl
        · rw [if_neg hk, if_neg hk, if_neg hk]
      next hne =>
        have hkey : key < g.1 := lt_of_le_of_ne (not_lt.1 hge) (Ne.symm hne)
        -- all keys are above the new one, so it had no group before
        have hnone : (g :: gs).lookup key = none := by
          refine lookup_eq_none_of_ne ?_
          intro a ha
          rcases List.mem_cons.1 ha with rfl | ha
          · exact hne
          · exact ne_of_gt (lt_trans hkey (hg a.1 (List.mem_map_of_mem ha)))
        rw [hnone, lookup_cons_eq_ite]
        rfl

theorem mem_iff_lookup_eq_some {gs : List (String × List RowId)}
    (h : (gs.map Prod.fst).Pairwise (· < ·)) (g : String × List RowId) :
    g ∈ gs ↔ gs.lookup g.1 = some g.2 := by
  induction gs with
  | nil => simp
  | cons a gs ih =>
    obtain ⟨ha, hgs⟩ := List.pairwise_cons.1 h
    rw [List.mem_cons, lookup_cons_eq_ite, ih hgs]
    by_cases hk : g.1 = a.1
    · -- the key of the first group occurs in no other
      have hnone : gs.lookup g.1 = none := by
        refine lookup_eq_none_of_ne ?_
        intro b hb
        rw [hk]
        exact ne_of_gt (ha b.1 (List.mem_map_of_mem hb))
      rw [if_pos hk, hnone, Option.some_inj, Prod.ext_iff]
      simp [hk, eq_comm]
    · rw [if_neg hk, or_iff_right fun hga => hk (congrArg Prod.fst hga)]

theorem length_ids_addUnder (key : String) (id : RowId) (gs : List (String × List RowId)) :
    ((addUnder key id gs).flatMap Prod.snd).length = (gs.flatMap Prod.snd).length + 1 := by
  induction gs with
  | nil => rfl
  | cons g gs ih =>
    rw [addUnder]
    split
    · rw [List.flatMap_cons, List.flatMap_cons, List.length_append, List.length_append, ih]
      omega
    · split <;> simp only [List.flatMap_cons, List.length_append, List.length_singleton] <;> omega

/-! ### All additions -/

theorem grouped_append_singleton (es : List (String × RowId)) (e : String × RowId) :
    grouped (es ++ [e]) = addUnder e.1 e.2 (grouped es) := by
  rw [grouped, List.foldl_append]
  rfl

theorem idsUnder_append_singleton (es : List (String × RowId)) (e : String × RowId) (k : String) :
    idsUnder (es ++ [e]) k = if k = e.1 then idsUnder es k ++ [e.2] else idsUnder es k := by
  by_cases h : k = e.1
  · have he : (e.1 == k) = true := beq_iff_eq.2 h.symm
    rw [if_pos h]
    simp [idsUnder, he]
  · have he : (e.1 == k) = false := beq_false_of_ne (Ne.symm h)
    rw [if_neg h]
    simp [idsUnder, he]

theorem idsUnder_eq_nil {es : List (String × RowId)} {k : String} (h : k ∉ es.map Prod.fst) :
    idsUnder es k = [] := by
  rw [idsUnder, List.map_eq_nil_iff, List.filter_eq_nil_iff]
  intro e he hk
  exact h (beq_iff_eq.1 hk ▸ List.mem_map_of_mem he)

/-- The keys are ascending, so none of them occurs twice. -/
theorem pairwise_grouped (es : List (String × RowId)) :
    ((grouped es).map Prod.fst).Pairwise (· < ·) := by
  induction es using List.reverseRecOn with
  | nil => exact List.Pairwise.nil
  | append_singleton es e ih =>
    rw [grouped_append_singleton]
    exact pairwise_addUnder ih

theorem mem_keys_grouped {es : List (String × RowId)} {k : String} :
    k ∈ (grouped es).map Prod.fst ↔ k ∈ es.map Prod.fst := by
  induction es using List.reverseRecOn with
  | nil => rfl
  | append_singleton es e ih =>
    rw [grouped_append_singleton, mem_keys_addUnder, ih, List.map_append, List.mem_append,
      List.map_singleton, List.mem_singleton]
    exact or_comm

theorem lookup_grouped (es : List (String × RowId)) (k : String) :
    (grouped es).lookup k = if k ∈ es.map Prod.fst then some (idsUnder es k) else none := by
  induction es using List.reverseRecOn with
  | nil => rfl
  | append_singleton es e ih =>
    rw [grouped_append_singleton, lookup_addUnder (pairwise_grouped es), idsUnder_append_singleton]
    by_cases hk : k = e.1
    · -- the group so far is `idsUnder es k`, also where the key is new
      have hmem : k ∈ (es ++ [e]).map Prod.fst := by simp [hk]
      rw [if_pos hk, if_pos hmem, if_pos hk, ← hk, ih]
      by_cases hes : k ∈ es.map Prod.fst
      · rw [if_pos hes]
        rfl
      · rw [if_neg hes, idsUnder_eq_nil hes]
        rfl
    · have hmem : k ∈ (es ++ [e]).map Prod.fst ↔ k ∈ es.map Prod.fst := by simp [hk]
      rw [if_neg hk, if_neg hk, ih]
      simp only [hmem]

/-- Every group holds what was inserted under its key. -/
theorem snd_of_mem_grouped {es : List (String × RowId)} {g : String × List RowId}
    (h : g ∈ grouped es) : g.2 = idsUnder es g.1 := by
  have hmem : g.1 ∈ es.map Prod.fst := mem_keys_grouped.1 (List.mem_map_of_mem h)
  rw [mem_iff_lookup_eq_some (pairwise_grouped es), lookup_grouped, if_pos hmem] at h
  exact (Option.some_inj.1 h).symm

/-- There are as many groups as distinct keys. -/
theorem length_grouped (es : List (String × RowId)) :
    (grouped es).length = (es.map Prod.fst).dedup.length := by
  have hnodup : ((grouped es).map Prod.fst).Nodup := (pairwise_grouped es).imp ne_of_lt
  have hperm : (es.map Prod.fst).dedup.Perm ((grouped es).map Prod.fst) := by
    rw [List.perm_ext_iff_of_nodup (List.nodup_dedup _) hnodup]
    intro k
    rw [List.mem_dedup, mem_keys_grouped]
  rw [hperm.length_eq, List.length_map]

theorem length_ids_grouped (es : List (String × RowId)) :
    ((grouped es).flatMap Prod.snd).length = es.length := by
  induction es using List.reverseRecOn with
  | nil => rfl
  | append_singleton es e ih =>
    rw [grouped_append_singleton, length_ids_addUnder, ih, List.length_append]
    rfl

theorem grouped_eq_nil_iff (es : List (String × RowId)) : grouped es = [] ↔ es = [] := by
  refine ⟨fun h => List.eq_nil_of_length_eq_zero ?_, fun h => h ▸ rfl⟩
  rw [← length_ids_grouped, h]
  rfl

end DogRegistry
