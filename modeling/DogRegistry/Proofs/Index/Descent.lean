import DogRegistry.Index.Trace
import DogRegistry.Proofs.Index.WellFormed

/-!
# Searching a tree in order

A search finds a child at every node on its way and ends at the only leaf that may hold the key, so
it answers with the group that the whole tree has for the key.

## Main results

* `Node.WellFormed.exists_descend` — the way to a key exists, and the leaf at its end knows all
  about the key.
* `Node.WellFormed.get?_eq_lookup` — a look-up answers with the group of the key.
* `Tree.rowIds_search` — so does a search that is recorded.
-/

namespace DogRegistry

variable {lower upper : Option String} {key : String} {levels : Nat}

namespace Node.WellFormed

variable {n : Node}

theorem exists_descend (h : n.WellFormed levels lower upper) (hkey : inRange lower upper key) :
    ∃ d, n.descend? key = some d ∧ d.leaf.get? key = n.entries.lookup key := by
  induction h using WellFormed.induction with
  | @leaf _ _ l hl =>
    refine ⟨⟨[], l⟩, by rw [descend?], ?_⟩
    rw [entries_leaf]
    exact hl.get?_eq_lookup key
  | internal hks hcs ih =>
    obtain ⟨f⟩ := hcs.exists_focus hks hkey
    obtain ⟨d, hd, hget⟩ := ih f.property f.covers
    refine ⟨_, by rw [descend?, descendAt?_eq, f.getElem?_children, Option.bind_some, hd]; rfl, ?_⟩
    rw [entries_internal, f.flatMap_children, List.lookup_append, List.lookup_append,
      lookup_eq_none_of_ne fun g hg => ne_of_lt (f.lt_of_mem_left g hg),
      lookup_eq_none_of_ne fun g hg => ne_of_gt (f.lt_of_mem_right g hg), Option.none_or,
      Option.or_none]
    exact hget

/-- A look-up answers with the group of the key. -/
theorem get?_eq_lookup (h : n.WellFormed levels lower upper) (hkey : inRange lower upper key) :
    n.get? key = n.entries.lookup key := by
  obtain ⟨d, hd, hget⟩ := h.exists_descend hkey
  rw [get?, hd]
  exact hget

end Node.WellFormed

/-- A recorded search answers with the row identifiers that a look-up finds. -/
theorem Tree.rowIds_search {t : Tree} (h : t.root.WellFormed levels none none) (key : String) :
    (t.search key).rowIds = (t.entries.lookup key).getD [] := by
  obtain ⟨d, hd, hget⟩ := h.exists_descend (inRange_none_none key)
  rw [search, hd, entries, ← hget]

end DogRegistry
