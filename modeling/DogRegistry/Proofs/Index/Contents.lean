import DogRegistry.Proofs.Index.Insertion

/-!
# What a tree holds

A tree that is filled by insertions answers every question like a sorted multimap: its leaves list
the inserted keys in ascending order, each with the row identifiers that were inserted under it.
Order and split policy decide its shape and nothing else.

## Main definitions

* `Tree.IsMultimapOf es` — a tree that answers as the insertions `es` ask for.

## Main results

* `Tree.entries_ofEntries` — the groups in the leaves are those of `grouped`.
* `Tree.ofEntries_induction` — what every insertion keeps holds of a tree filled by insertions.
* `Tree.foldlM_insert?_ofEntries` — none of the insertions lacks a part of the tree.
* `Tree.isMultimapOf_ofEntries` — a tree filled by insertions is a sorted multimap, and any two
  valid settings answer alike.
-/

namespace DogRegistry

namespace Tree

/-! ### One insertion -/

section Insert

variable {t : Tree}

theorem insert?_eq_insert (h : t.WellFormed) (hv : t.config.Valid) (key : String) (id : RowId) :
    t.insert? key id = some (t.insert key id) := by
  obtain ⟨t', ht', -⟩ := insert?_spec h hv key id
  rw [insert, ht', Option.getD_some]

theorem config_insert (h : t.WellFormed) (hv : t.config.Valid) (key : String) (id : RowId) :
    (t.insert key id).config = t.config := by
  obtain ⟨t', ht', hconfig, -⟩ := insert?_spec h hv key id
  rw [insert, ht', Option.getD_some, hconfig]

theorem WellFormed.insert (h : t.WellFormed) (hv : t.config.Valid) (key : String) (id : RowId) :
    (t.insert key id).WellFormed := by
  obtain ⟨t', ht', -, hwf, -⟩ := insert?_spec h hv key id
  rwa [Tree.insert, ht', Option.getD_some]

theorem entries_insert (h : t.WellFormed) (hv : t.config.Valid) (key : String) (id : RowId) :
    (t.insert key id).entries = addUnder key id t.entries := by
  obtain ⟨t', ht', -, -, hentries⟩ := insert?_spec h hv key id
  rw [insert, ht', Option.getD_some, hentries]

end Insert

/-! ### All insertions -/

section OfEntries

variable {config : IndexConfig}

/-- Insertions keep the settings and leave the tree in order. -/
theorem config_and_wellFormed_ofEntries (hv : config.Valid) (es : List (String × RowId)) :
    (ofEntries config es).config = config ∧ (ofEntries config es).WellFormed := by
  induction es using List.reverseRecOn with
  | nil => exact ⟨rfl, wellFormed_empty config⟩
  | append_singleton es e ih =>
    obtain ⟨hconfig, hwf⟩ := ih
    have hv' : (ofEntries config es).config.Valid := hconfig.symm ▸ hv
    rw [ofEntries_append_singleton]
    exact ⟨(config_insert hwf hv' e.1 e.2).trans hconfig, hwf.insert hv' e.1 e.2⟩

theorem config_ofEntries (hv : config.Valid) (es : List (String × RowId)) :
    (ofEntries config es).config = config :=
  (config_and_wellFormed_ofEntries hv es).1

theorem wellFormed_ofEntries (hv : config.Valid) (es : List (String × RowId)) :
    (ofEntries config es).WellFormed :=
  (config_and_wellFormed_ofEntries hv es).2

theorem valid_config_ofEntries (hv : config.Valid) (es : List (String × RowId)) :
    (ofEntries config es).config.Valid :=
  (config_ofEntries hv es).symm ▸ hv

/-- The leaves hold the groups that the insertions leave behind. -/
theorem entries_ofEntries (hv : config.Valid) (es : List (String × RowId)) :
    (ofEntries config es).entries = grouped es := by
  induction es using List.reverseRecOn with
  | nil =>
    show (Node.leaf {}).entries = []
    rw [Node.entries_leaf]
    rfl
  | append_singleton es e ih =>
    rw [ofEntries_append_singleton, grouped_append_singleton, ← ih]
    exact entries_insert (wellFormed_ofEntries hv es) (valid_config_ofEntries hv es) e.1 e.2

/-- Induction over the insertions: what holds of the empty tree, and is kept by an insertion into a
tree in order that holds the groups so far, holds of every tree that is filled by insertions. -/
theorem ofEntries_induction {P : List (String × RowId) → Tree → Prop} (hv : config.Valid)
    (hempty : P [] (empty config))
    (hinsert : ∀ es (t : Tree) (e : String × RowId), t.config = config → t.WellFormed →
      t.entries = grouped es → P es t → P (es ++ [e]) (t.insert e.1 e.2))
    (es : List (String × RowId)) : P es (ofEntries config es) := by
  induction es using List.reverseRecOn with
  | nil => exact hempty
  | append_singleton es e ih =>
    rw [ofEntries_append_singleton]
    exact hinsert es _ e (config_ofEntries hv es) (wellFormed_ofEntries hv es)
      (entries_ofEntries hv es) ih

/-- Every one of the insertions finds all that it needs. -/
theorem foldlM_insert?_ofEntries (hv : config.Valid) (es : List (String × RowId)) :
    es.foldlM (fun (t : Tree) e => t.insert? e.1 e.2) (empty config) =
      some (ofEntries config es) := by
  induction es using List.reverseRecOn with
  | nil => rfl
  | append_singleton es e ih =>
    have hlast := insert?_eq_insert (wellFormed_ofEntries hv es) (valid_config_ofEntries hv es)
      e.1 e.2
    rw [List.foldlM_append, ih, ofEntries_append_singleton]
    simp only [Option.bind_eq_bind, Option.bind_some, List.foldlM_cons, List.foldlM_nil, hlast]
    rfl

theorem allKeys_eq_map_entries {t : Tree} (h : t.WellFormed) :
    t.allKeys = t.entries.map Prod.fst := by
  obtain ⟨levels, hroot⟩ := h
  exact hroot.map_fst_entries.symm

theorem lookup_entries_ofEntries (hv : config.Valid) (es : List (String × RowId)) (key : String) :
    (ofEntries config es).entries.lookup key =
      if key ∈ es.map Prod.fst then some (idsUnder es key) else none := by
  rw [entries_ofEntries hv, lookup_grouped]

theorem get?_ofEntries (hv : config.Valid) (es : List (String × RowId)) (key : String) :
    (ofEntries config es).get? key =
      if key ∈ es.map Prod.fst then some (idsUnder es key) else none := by
  obtain ⟨levels, hroot⟩ := wellFormed_ofEntries hv es
  rw [← lookup_entries_ofEntries hv]
  exact hroot.get?_eq_lookup (inRange_none_none key)

theorem rowIds_search_ofEntries (hv : config.Valid) (es : List (String × RowId)) (key : String) :
    ((ofEntries config es).search key).rowIds = idsUnder es key := by
  obtain ⟨levels, hroot⟩ := wellFormed_ofEntries hv es
  rw [rowIds_search hroot, lookup_entries_ofEntries hv]
  by_cases hkey : key ∈ es.map Prod.fst
  · rw [if_pos hkey, Option.getD_some]
  · rw [if_neg hkey, Option.getD_none, idsUnder_eq_nil hkey]

theorem size_ofEntries (hv : config.Valid) (es : List (String × RowId)) :
    (ofEntries config es).size = (es.map Prod.fst).dedup.length := by
  show (ofEntries config es).allKeys.length = _
  rw [allKeys_eq_map_entries (wellFormed_ofEntries hv es), List.length_map, entries_ofEntries hv,
    length_grouped]

theorem entryCount_ofEntries (hv : config.Valid) (es : List (String × RowId)) :
    (ofEntries config es).stats.entryCount = es.length := by
  obtain ⟨levels, hroot⟩ := wellFormed_ofEntries hv es
  show (ofEntries config es).root.ids.length = _
  rw [← hroot.flatMap_snd_entries, ← length_ids_grouped es, ← entries_ofEntries hv es]
  rfl

/-- A tree reads as empty only before the first insertion, though an internal root is never looked
into. -/
theorem isEmpty_ofEntries (hv : config.Valid) (es : List (String × RowId)) :
    (ofEntries config es).isEmpty ↔ es = [] := by
  constructor
  · intro h
    rw [isEmpty] at h
    split at h
    next l hroot =>
      have hkeys : (ofEntries config es).allKeys = [] := by
        rw [allKeys, hroot, Node.allKeys_leaf]
        exact List.isEmpty_iff.1 h
      rw [allKeys_eq_map_entries (wellFormed_ofEntries hv es), entries_ofEntries hv,
        List.map_eq_nil_iff, grouped_eq_nil_iff] at hkeys
      exact hkeys
    next => exact absurd h Bool.false_ne_true
  · rintro rfl
    rfl

end OfEntries

/-! ### Trees as multimaps -/

/-- `t.IsMultimapOf es` says `t` answers like a sorted multimap that is filled by the insertions
`es`. -/
structure IsMultimapOf (t : Tree) (es : List (String × RowId)) : Prop where
  /-- From left to right the leaves hold ascending keys. -/
  ascending : (t.entries.map Prod.fst).Pairwise (· < ·)
  /-- The keys in the leaves are the inserted ones. -/
  mem_keys_iff : ∀ key, key ∈ t.entries.map Prod.fst ↔ key ∈ es.map Prod.fst
  /-- Every key has the row identifiers that were inserted under it, in their order. -/
  ids_eq : ∀ g ∈ t.entries, g.2 = idsUnder es g.1
  /-- The keys of the tree are those of its leaves. -/
  allKeys_eq : t.allKeys = t.entries.map Prod.fst
  /-- There is a way to every key. -/
  isSome_descend : ∀ key, (t.root.descend? key).isSome
  /-- A look-up finds the inserted keys and no others. -/
  get?_eq : ∀ key, t.get? key = if key ∈ es.map Prod.fst then some (idsUnder es key) else none
  /-- A search answers with the row identifiers of the key, and with none if it was not inserted. -/
  rowIds_eq : ∀ key, (t.search key).rowIds = idsUnder es key
  /-- The size is the number of distinct keys. -/
  size_eq : t.size = (es.map Prod.fst).dedup.length
  /-- There are as many entries as insertions. -/
  entryCount_eq : t.stats.entryCount = es.length
  /-- The tree is empty if nothing was inserted. -/
  isEmpty_iff : t.isEmpty ↔ es = []

/-- A tree that is filled by insertions is a sorted multimap, whatever its valid settings are. -/
theorem IsMultimapOf.of_valid {config : IndexConfig} (hv : config.Valid)
    (es : List (String × RowId)) : (ofEntries config es).IsMultimapOf es where
  ascending := entries_ofEntries hv es ▸ pairwise_grouped es
  mem_keys_iff _ := entries_ofEntries hv es ▸ mem_keys_grouped
  ids_eq _ hg := snd_of_mem_grouped (entries_ofEntries hv es ▸ hg)
  allKeys_eq := allKeys_eq_map_entries (wellFormed_ofEntries hv es)
  isSome_descend key := by
    obtain ⟨levels, hroot⟩ := wellFormed_ofEntries hv es
    obtain ⟨d, hd, -⟩ := hroot.exists_descend (inRange_none_none key)
    rw [hd, Option.isSome_some]
  get?_eq := get?_ofEntries hv es
  rowIds_eq := rowIds_search_ofEntries hv es
  size_eq := size_ofEntries hv es
  entryCount_eq := entryCount_ofEntries hv es
  isEmpty_iff := isEmpty_ofEntries hv es

/-- Insertions into the empty tree never fail and make it a sorted multimap.  Another valid order or
split policy answers every look-up and every search alike and lists the same keys. -/
theorem isMultimapOf_ofEntries {config config' : IndexConfig} (hv : config.Valid)
    (hv' : config'.Valid) (es : List (String × RowId)) :
    es.foldlM (fun (t : Tree) e => t.insert? e.1 e.2) (empty config) =
        some (ofEntries config es) ∧
      (ofEntries config es).IsMultimapOf es ∧
      (∀ key, (ofEntries config' es).get? key = (ofEntries config es).get? key) ∧
      (∀ key, ((ofEntries config' es).search key).rowIds =
        ((ofEntries config es).search key).rowIds) ∧
      (ofEntries config' es).allKeys = (ofEntries config es).allKeys := by
  have h := IsMultimapOf.of_valid hv es
  have h' := IsMultimapOf.of_valid hv' es
  refine ⟨foldlM_insert?_ofEntries hv es, h, fun key => ?_, fun key => ?_, ?_⟩
  · rw [h.get?_eq, h'.get?_eq]
  · rw [h.rowIds_eq, h'.rowIds_eq]
  · rw [h.allKeys_eq, h'.allKeys_eq, entries_ofEntries hv, entries_ofEntries hv']

theorem isMultimapOf_ofEntries_labrador :
    IndexConfig.Valid ⟨3, .recursive⟩ ∧ IndexConfig.Valid ⟨5, .rootOnly⟩ ∧
      (ofEntries ⟨3, .recursive⟩ [("Labrador", ⟨101, by decide⟩), ("Beagle", ⟨102, by decide⟩),
        ("Akita", ⟨103, by decide⟩), ("Labrador", ⟨101, by decide⟩)]).get? "Labrador" =
          some [⟨101, by decide⟩, ⟨101, by decide⟩] ∧
      (ofEntries ⟨5, .rootOnly⟩ [("Labrador", ⟨101, by decide⟩), ("Beagle", ⟨102, by decide⟩),
        ("Akita", ⟨103, by decide⟩), ("Labrador", ⟨101, by decide⟩)]).get? "Labrador" =
          some [⟨101, by decide⟩, ⟨101, by decide⟩] := by
  have hv : IndexConfig.Valid ⟨3, .recursive⟩ := by decide
  have hv' : IndexConfig.Valid ⟨5, .rootOnly⟩ := by decide
  obtain ⟨-, h, hget, -⟩ := isMultimapOf_ofEntries hv hv' [("Labrador", ⟨101, by decide⟩),
    ("Beagle", ⟨102, by decide⟩), ("Akita", ⟨103, by decide⟩), ("Labrador", ⟨101, by decide⟩)]
  refine ⟨hv, hv', ?_, ?_⟩
  · rw [h.get?_eq]
    rfl
  · rw [hget, h.get?_eq]
    rfl

end Tree

end DogRegistry
