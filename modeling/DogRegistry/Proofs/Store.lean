import DogRegistry.Proofs.Basic
import DogRegistry.Proofs.Catalog
import DogRegistry.Proofs.Table
import DogRegistry.Store
import Mathlib.Data.List.Forall2
import Mathlib.Data.List.Induction

/-!
# Loading a store

A store is loaded from pairs of a name and a text, one after the other.  The first pair that is at
fault decides the error; only if there is none does it matter which tables are missing.  Neither the
order of the pairs nor the names that are chosen for the tables make a difference to a store that is
loaded.

## Main definitions

* `Store.HasHeader text` — the text has a line that is not blank.
* `Store.Faulty earlier pair e` — what is wrong with a pair behind earlier ones.
* `Store.Sound tables`, `Store.FirstFault tables e` — no pair is at fault, or which one is first.
* `Store.Loadable tables` — the pairs are known, can be read, and are one for every table.

## Main results

* `PartialStore.Holds.load_eq_error`, `PartialStore.Holds.exists_load_eq_ok` — what becomes of one
  more pair.
* `PartialStore.exists_loadAll_eq_ok`, `PartialStore.loadAll_eq_error` — and of all of them.
* `Store.load_eq_ok_iff` — a store that is loaded, in terms of the texts for every table.
* `Store.load_texts_eq_ok_iff` — the texts of a store are read one by one.
* `Store.load_classified` — when a store is loaded, which one, and with what error if it is not.
-/

namespace DogRegistry

open Text

namespace Store

variable {t : TableName} {tables : List (String × String)} {pair : String × String}
  {text : String} {e : StoreError}

/-! ### Texts -/

/-- `HasHeader text` says some line of `text` is not blank. -/
def HasHeader (text : String) : Prop :=
  ∃ line ∈ splitAtChar '\n' text, isBlankText line = false

theorem parse_eq_error_iff_not_hasHeader :
    Table.parse text = .error .missingHeader ↔ ¬ HasHeader text := by
  rw [Table.parse_eq_error_iff, HasHeader]
  simp only [not_exists, not_and, Bool.not_eq_false]

/-- A text is a table if it has a header. -/
theorem hasHeader_iff : HasHeader text ↔ ∃ table, Table.parse text = .ok table := by
  rw [← not_iff_not, ← parse_eq_error_iff_not_hasHeader]
  cases Table.parse text with
  | error cause => cases cause; simp
  | ok table => simp

/-- The texts that are given for a table. -/
def textsOf (t : TableName) (tables : List (String × String)) : List String :=
  (tables.filter fun pair => t.IsNamed pair.1).map Prod.snd

theorem mem_textsOf_iff :
    text ∈ textsOf t tables ↔ ∃ pair ∈ tables, t.IsNamed pair.1 ∧ pair.2 = text := by
  simp only [textsOf, List.mem_map, List.mem_filter, decide_eq_true_eq, and_assoc]

theorem textsOf_append (t : TableName) (tables tables' : List (String × String)) :
    textsOf t (tables ++ tables') = textsOf t tables ++ textsOf t tables' := by
  rw [textsOf, List.filter_append, List.map_append, textsOf, textsOf]

theorem textsOf_singleton (t : TableName) (pair : String × String) :
    textsOf t [pair] = if t.IsNamed pair.1 then [pair.2] else [] := by
  by_cases h : t.IsNamed pair.1
  · simp [textsOf, h]
  · simp [textsOf, h]

theorem textsOf_eq_nil_iff : textsOf t tables = [] ↔ ∀ pair ∈ tables, ¬ t.IsNamed pair.1 := by
  simp only [textsOf, List.map_eq_nil_iff, List.filter_eq_nil_iff, decide_eq_true_eq]

theorem length_textsOf (t : TableName) (tables : List (String × String)) :
    (textsOf t tables).length = tables.countP fun pair => t.IsNamed pair.1 := by
  rw [textsOf, List.length_map, List.countP_eq_length_filter]

/-! ### Faults -/

/-- `Faulty earlier pair e` says what is wrong with a pair that stands behind others. -/
inductive Faulty (earlier : List (String × String)) : String × String → StoreError → Prop
  /-- No table goes by the name. -/
  | unknown {name text : String} (hname : ∀ t : TableName, ¬ t.IsNamed name) :
    Faulty earlier (name, text) (.unknownTable name)
  /-- Otherwise, the text is no table. -/
  | invalid {name text : String} {t : TableName} (hname : t.IsNamed name)
      (htext : ¬ HasHeader text) : Faulty earlier (name, text) (.invalidTable name .missingHeader)
  /-- Otherwise, a text has been given for the same table, under whatever name. -/
  | duplicate {name text : String} {t : TableName} (hname : t.IsNamed name)
      (htext : HasHeader text) (hearlier : ∃ pair ∈ earlier, t.IsNamed pair.1) :
    Faulty earlier (name, text) (.duplicateTable t)

/-- No pair is at fault. -/
def Sound (tables : List (String × String)) : Prop :=
  ∀ earlier pair later, tables = earlier ++ pair :: later → ∀ e, ¬ Faulty earlier pair e

/-- `FirstFault tables e` says what is wrong with the first pair that is at fault. -/
def FirstFault (tables : List (String × String)) (e : StoreError) : Prop :=
  ∃ earlier pair later, tables = earlier ++ pair :: later ∧ Sound earlier ∧ Faulty earlier pair e

/-- `Missing tables e` says which table is the first without a text. -/
inductive Missing (tables : List (String × String)) : StoreError → Prop
  /-- There are no owners. -/
  | owners (h : ∀ pair ∈ tables, ¬ TableName.owners.IsNamed pair.1) :
    Missing tables (.missingTable .owners)
  /-- There are owners but no dogs. -/
  | dogs (howners : ∃ pair ∈ tables, TableName.owners.IsNamed pair.1)
      (h : ∀ pair ∈ tables, ¬ TableName.dogs.IsNamed pair.1) : Missing tables (.missingTable .dogs)

theorem sound_nil : Sound [] := by
  intro earlier pair later h
  exact absurd h (by simp)

theorem sound_append_singleton_iff :
    Sound (tables ++ [pair]) ↔ Sound tables ∧ ∀ e, ¬ Faulty tables pair e := by
  constructor
  · intro h
    refine ⟨?_, h tables pair [] rfl⟩
    rintro earlier pair' later rfl
    exact h earlier pair' (later ++ [pair]) (by simp)
  · rintro ⟨htables, hpair⟩ earlier pair' later heq
    rcases List.eq_nil_or_concat later with rfl | ⟨later, last, rfl⟩
    · obtain ⟨rfl, hlast⟩ := List.append_inj' heq rfl
      obtain rfl := List.singleton_inj.1 hlast
      exact hpair
    · rw [List.concat_eq_append, ← List.cons_append, ← List.append_assoc] at heq
      obtain ⟨rfl, -⟩ := List.append_inj' heq rfl
      exact htables earlier pair' later rfl

/-- If a pair is at fault, one is the first. -/
theorem sound_or_firstFault (tables : List (String × String)) :
    Sound tables ∨ ∃ e, FirstFault tables e := by
  induction tables using List.reverseRecOn with
  | nil => exact .inl sound_nil
  | append_singleton tables pair ih =>
    rcases ih with hsound | ⟨e, earlier, first, later, rfl, hsound, hfault⟩
    · by_cases hfault : ∃ e, Faulty tables pair e
      · obtain ⟨e, hfault⟩ := hfault
        exact .inr ⟨e, tables, pair, [], rfl, hsound, hfault⟩
      · exact .inl (sound_append_singleton_iff.2 ⟨hsound, not_exists.1 hfault⟩)
    · exact .inr ⟨e, earlier, first, later ++ [pair], by simp, hsound, hfault⟩

end Store

/-! ### The run of the loader -/

namespace PartialStore

open Store

variable {p : PartialStore} {t : TableName} {earlier tables : List (String × String)}
  {pair : String × String} {e : StoreError}

/-- The tables that are loaded from pairs of a name and a text. -/
def loadAll (tables : List (String × String)) : Except StoreError PartialStore :=
  tables.foldlM (fun (p : PartialStore) t => p.load t.1 t.2) {}

theorem load_eq_loadAll_bind (tables : List (String × String)) :
    Store.load tables = loadAll tables >>= toStore := rfl

theorem loadAll_append (tables tables' : List (String × String)) :
    loadAll (tables ++ tables') = loadAll tables >>= fun p =>
      tables'.foldlM (fun (p : PartialStore) t => p.load t.1 t.2) p := by
  rw [loadAll, List.foldlM_append, loadAll]

theorem table?_add (p : PartialStore) (table : Table) (t u : TableName) :
    (p.add table t).table? u = if u = t then some table else p.table? u := by
  cases t <;> cases u <;> rfl

/-- `p.Holds tables` says `p` has read the texts for every table, of which there is at most one. -/
def Holds (p : PartialStore) (tables : List (String × String)) : Prop :=
  ∀ t, (textsOf t tables).map Table.parse = (p.table? t).toList.map .ok

theorem holds_empty : Holds {} [] := by
  intro t
  cases t <;> rfl

/-- The tables that are there are those that a text was given for. -/
theorem Holds.table?_eq_none_iff (h : p.Holds tables) :
    p.table? t = none ↔ ∀ pair ∈ tables, ¬ t.IsNamed pair.1 := by
  have hnil : (textsOf t tables).map Table.parse = [] ↔ p.table? t = none := by
    rw [h t]
    cases p.table? t <;> simp
  rw [← hnil, List.map_eq_nil_iff, textsOf_eq_nil_iff]

/-- A pair at fault is turned down. -/
theorem Holds.load_eq_error (h : p.Holds earlier) (hfault : Faulty earlier pair e) :
    p.load pair.1 pair.2 = .error e := by
  cases hfault with
  | unknown hname =>
    rw [load, TableName.resolve?_eq_none_iff.2 hname]
  | invalid hname htext =>
    rw [load, TableName.resolve?_eq_some_iff.2 hname]
    simp only [parse_eq_error_iff_not_hasHeader.2 htext]
  | @duplicate name text t hname htext hearlier =>
    obtain ⟨table, hparse⟩ := hasHeader_iff.1 htext
    have hthere : (p.table? t).isSome := by
      obtain ⟨pair, hpair, hnamed⟩ := hearlier
      refine Option.isSome_iff_ne_none.2 fun hnone => ?_
      exact h.table?_eq_none_iff.1 hnone pair hpair hnamed
    rw [load, TableName.resolve?_eq_some_iff.2 hname]
    simp only [hparse, hthere, if_true]

/-- Any other pair is read. -/
theorem Holds.exists_load_eq_ok (h : p.Holds earlier) (hnone : ∀ e, ¬ Faulty earlier pair e) :
    ∃ p', p.load pair.1 pair.2 = .ok p' ∧ p'.Holds (earlier ++ [pair]) := by
  obtain ⟨name, text⟩ := pair
  obtain ⟨t, hname⟩ : ∃ t : TableName, t.IsNamed name := by
    by_contra hunknown
    exact hnone _ (.unknown (not_exists.1 hunknown))
  have htext : HasHeader text := by
    by_contra hinvalid
    exact hnone _ (.invalid hname hinvalid)
  have hnew : p.table? t = none := by
    rw [h.table?_eq_none_iff]
    intro pair hpair hearlier
    exact hnone _ (.duplicate hname htext ⟨pair, hpair, hearlier⟩)
  obtain ⟨table, hparse⟩ := hasHeader_iff.1 htext
  refine ⟨p.add table t, ?_, fun u => ?_⟩
  · rw [load, TableName.resolve?_eq_some_iff.2 hname]
    simp only [hparse, hnew]
    rfl
  · rw [textsOf_append, textsOf_singleton, List.map_append, h u, table?_add]
    by_cases hu : u = t
    · subst hu
      rw [if_pos hname, if_pos rfl, hnew]
      simp only [hparse, Option.toList, List.map_cons, List.map_nil, List.nil_append]
    · have hother : ¬ u.IsNamed name := fun hnamed => hu (hnamed.eq hname)
      rw [if_neg hother, if_neg hu, List.map_nil, List.append_nil]

/-- Pairs without a fault are read one by one. -/
theorem exists_loadAll_eq_ok (h : Sound tables) : ∃ p, loadAll tables = .ok p ∧ p.Holds tables := by
  induction tables using List.reverseRecOn with
  | nil => exact ⟨{}, rfl, holds_empty⟩
  | append_singleton tables pair ih =>
    obtain ⟨hsound, hnone⟩ := sound_append_singleton_iff.1 h
    obtain ⟨p, hload, hholds⟩ := ih hsound
    obtain ⟨p', hnext, hholds'⟩ := hholds.exists_load_eq_ok hnone
    refine ⟨p', ?_, hholds'⟩
    rw [loadAll_append, hload]
    show p.load pair.1 pair.2 >>= pure = .ok p'
    rw [hnext]
    rfl

/-- The first pair at fault decides the error. -/
theorem loadAll_eq_error (h : FirstFault tables e) : loadAll tables = .error e := by
  obtain ⟨earlier, pair, later, rfl, hsound, hfault⟩ := h
  obtain ⟨p, hload, hholds⟩ := exists_loadAll_eq_ok hsound
  rw [loadAll_append, hload]
  show p.load pair.1 pair.2 >>= _ = _
  rw [hholds.load_eq_error hfault]
  rfl

/-- A store is what has been read if no table is missing. -/
theorem toStore_eq_ok_iff {s : Store} : p.toStore = .ok s ↔ ∀ t, p.table? t = some (s.table t) := by
  constructor
  · intro h t
    unfold toStore at h
    split at h
    next => exact absurd h (by simp)
    next => exact absurd h (by simp)
    next owners dogs howners hdogs =>
      obtain rfl := Except.ok.inj h
      cases t with
      | owners => exact howners
      | dogs => exact hdogs
  · intro h
    have howners : p.owners = some s.owners := h .owners
    have hdogs : p.dogs = some s.dogs := h .dogs
    rw [toStore, howners, hdogs]

/-- Otherwise the first table that is missing decides the error. -/
theorem Holds.toStore_eq_error_iff (h : p.Holds tables) :
    p.toStore = .error e ↔ Missing tables e := by
  have howners := h.table?_eq_none_iff (t := .owners)
  have hdogs := h.table?_eq_none_iff (t := .dogs)
  constructor
  · intro herror
    unfold toStore at herror
    split at herror
    next hnone =>
      obtain rfl := Except.error.inj herror
      exact .owners (howners.1 hnone)
    next owners hsome hnone =>
      obtain rfl := Except.error.inj herror
      refine .dogs ?_ (hdogs.1 hnone)
      by_contra hno
      have hmissing : p.owners = none :=
        howners.2 fun pair hpair hnamed => hno ⟨pair, hpair, hnamed⟩
      exact absurd (hmissing.symm.trans hsome) (by simp)
    next => exact absurd herror (by simp)
  · rintro (hnone | ⟨hsome, hnone⟩)
    · have hmissing : p.owners = none := howners.2 hnone
      rw [toStore, hmissing]
    · have hmissing : p.dogs = none := hdogs.2 hnone
      have hthere : p.owners ≠ none := by
        intro hno
        obtain ⟨pair, hpair, hnamed⟩ := hsome
        exact howners.1 hno pair hpair hnamed
      obtain ⟨owners, howners⟩ := Option.ne_none_iff_exists'.1 hthere
      rw [toStore, howners, hmissing]

end PartialStore

/-! ### Stores -/

namespace Store

variable {s : Store} {tables : List (String × String)} {e : StoreError}

/-- `Loadable tables` says there is one text for every table, which can be read, and no other
text. -/
structure Loadable (tables : List (String × String)) : Prop where
  /-- Every name is the one of a table. -/
  isNamed : ∀ pair ∈ tables, ∃ t : TableName, t.IsNamed pair.1
  /-- Every text has a header. -/
  hasHeader : ∀ pair ∈ tables, HasHeader pair.2
  /-- For every table there is one pair. -/
  countP_eq_one : ∀ t : TableName, (tables.countP fun pair => t.IsNamed pair.1) = 1

/-- Two pairs with the same text under names of the same table. -/
def SameTable (pair pair' : String × String) : Prop :=
  pair.2 = pair'.2 ∧ ∃ t : TableName, t.IsNamed pair.1 ∧ t.IsNamed pair'.1

/-- No pair is at fault if there is one text for every table, which can be read. -/
theorem sound_of_textsOf (hnames : ∀ pair ∈ tables, ∃ t : TableName, t.IsNamed pair.1)
    (htexts : ∀ t, (textsOf t tables).map Table.parse = [.ok (s.table t)]) : Sound tables := by
  rintro earlier pair later rfl e hfault
  have hcut (t : TableName) (hname : t.IsNamed pair.1) :
      (textsOf t earlier).map Table.parse ++ (Table.parse pair.2 ::
        (textsOf t later).map Table.parse) = [.ok (s.table t)] := by
    have htext := htexts t
    rwa [textsOf_append, ← List.singleton_append, textsOf_append, textsOf_singleton, if_pos hname,
      List.map_append, List.map_append, List.map_singleton, List.singleton_append] at htext
  cases hfault with
  | unknown hname =>
    obtain ⟨t, ht⟩ := hnames _ (List.mem_append_right earlier List.mem_cons_self)
    exact hname t ht
  | @invalid name text t hname htext =>
    have hmem : Table.parse text ∈ [Except.ok (s.table t)] := by
      rw [← hcut t hname]
      exact List.mem_append_right _ List.mem_cons_self
    exact htext (hasHeader_iff.2 ⟨s.table t, List.mem_singleton.1 hmem⟩)
  | @duplicate name text t hname htext hearlier =>
    have hlength := congrArg List.length (hcut t hname)
    have hnil : textsOf t earlier = [] := by
      rw [← List.length_eq_zero_iff]
      simp only [List.length_append, List.length_map, List.length_cons, List.length_nil] at hlength
      omega
    obtain ⟨pair, hpair, hnamed⟩ := hearlier
    exact textsOf_eq_nil_iff.1 hnil pair hpair hnamed

/-- A store is loaded if every name is the one of a table, and for every table there is one text,
which is read as that table. -/
theorem load_eq_ok_iff :
    load tables = .ok s ↔ (∀ pair ∈ tables, ∃ t : TableName, t.IsNamed pair.1) ∧
      ∀ t, (textsOf t tables).map Table.parse = [.ok (s.table t)] := by
  rw [PartialStore.load_eq_loadAll_bind, bind_eq_ok_iff]
  constructor
  · rintro ⟨p, hload, hstore⟩
    have hsound : Sound tables := by
      refine (sound_or_firstFault tables).resolve_right fun ⟨e, hfault⟩ => ?_
      exact absurd (hload.symm.trans (PartialStore.loadAll_eq_error hfault)) (by simp)
    obtain ⟨p', hload', hholds⟩ := PartialStore.exists_loadAll_eq_ok hsound
    obtain rfl := Except.ok.inj (hload.symm.trans hload')
    refine ⟨fun pair hpair => ?_, fun t => ?_⟩
    · obtain ⟨earlier, later, rfl⟩ := List.append_of_mem hpair
      by_contra hunknown
      exact hsound earlier pair later rfl _ (.unknown (not_exists.1 hunknown))
    · rw [hholds t, PartialStore.toStore_eq_ok_iff.1 hstore t]
      rfl
  · rintro ⟨hnames, htexts⟩
    obtain ⟨p, hload, hholds⟩ := PartialStore.exists_loadAll_eq_ok (sound_of_textsOf hnames htexts)
    refine ⟨p, hload, PartialStore.toStore_eq_ok_iff.2 fun t => ?_⟩
    have htable := (hholds t).symm.trans (htexts t)
    cases hthere : p.table? t with
    | none => simp [hthere] at htable
    | some table => simpa [hthere] using htable

/-- Every text that is given is read as the table it is given for. -/
theorem parse_of_load (h : load tables = .ok s) {t : TableName} {pair : String × String}
    (hpair : pair ∈ tables) (hname : t.IsNamed pair.1) : Table.parse pair.2 = .ok (s.table t) := by
  have hmem : Table.parse pair.2 ∈ (textsOf t tables).map Table.parse :=
    List.mem_map_of_mem (mem_textsOf_iff.2 ⟨pair, hpair, hname, rfl⟩)
  rw [(load_eq_ok_iff.1 h).2 t] at hmem
  exact List.mem_singleton.1 hmem

/-- For every table the texts of a store have one text. -/
theorem textsOf_texts (s : Store) (t : TableName) : textsOf t s.texts = [(s.table t).toText] := by
  rw [texts, List.map_cons, List.map_singleton, ← List.singleton_append, textsOf_append,
    textsOf_singleton, textsOf_singleton]
  simp only [TableName.isNamed_label_iff]
  cases t <;> rfl

/-- The texts of a store are read one by one. -/
theorem load_texts_eq_ok_iff {s' : Store} :
    load s.texts = .ok s' ↔ ∀ t, Table.parse (s.table t).toText = .ok (s'.table t) := by
  have hnames : ∀ pair ∈ s.texts, ∃ t : TableName, t.IsNamed pair.1 :=
    List.forall_mem_map.2 fun t _ => ⟨t, TableName.isNamed_label_iff.2 rfl⟩
  rw [load_eq_ok_iff, and_iff_right hnames]
  simp only [textsOf_texts, List.map_singleton, List.singleton_inj]

/-- When a store is loaded. -/
theorem exists_load_eq_ok_iff : (∃ s, load tables = .ok s) ↔ Loadable tables := by
  constructor
  · rintro ⟨s, h⟩
    obtain ⟨hnames, htexts⟩ := load_eq_ok_iff.1 h
    refine ⟨hnames, fun pair hpair => ?_, fun t => ?_⟩
    · obtain ⟨t, hname⟩ := hnames pair hpair
      exact hasHeader_iff.2 ⟨s.table t, parse_of_load h hpair hname⟩
    · have hlength := congrArg List.length (htexts t)
      rwa [List.length_map, length_textsOf] at hlength
  · intro h
    have htable (t : TableName) : ∃ table, (textsOf t tables).map Table.parse = [.ok table] := by
      have hlength : (textsOf t tables).length = 1 := by
        rw [length_textsOf, h.countP_eq_one]
      obtain ⟨text, htext⟩ := List.length_eq_one_iff.1 hlength
      have hmem : text ∈ textsOf t tables := htext ▸ List.mem_singleton_self text
      obtain ⟨pair, hpair, -, rfl⟩ := mem_textsOf_iff.1 hmem
      obtain ⟨table, hparse⟩ := hasHeader_iff.1 (h.hasHeader pair hpair)
      exact ⟨table, by rw [htext, List.map_singleton, hparse]⟩
    obtain ⟨owners, howners⟩ := htable .owners
    obtain ⟨dogs, hdogs⟩ := htable .dogs
    refine ⟨⟨owners, dogs⟩, load_eq_ok_iff.2 ⟨h.isNamed, fun t => ?_⟩⟩
    cases t with
    | owners => exact howners
    | dogs => exact hdogs

/-- Other names of the same tables stand for the same texts. -/
theorem textsOf_eq_of_sameTable {tables' : List (String × String)}
    (h : List.Forall₂ SameTable tables tables') (t : TableName) :
    textsOf t tables = textsOf t tables' := by
  induction h with
  | nil => rfl
  | @cons pair pair' tables tables' hsame _ ih =>
    obtain ⟨htext, u, hname, hname'⟩ := hsame
    have hiff : t.IsNamed pair.1 ↔ t.IsNamed pair'.1 :=
      ⟨fun ht => ht.eq hname ▸ hname', fun ht => ht.eq hname' ▸ hname⟩
    rw [← List.singleton_append, textsOf_append, textsOf_singleton, ih, htext,
      ← List.singleton_append (l := tables'), textsOf_append, textsOf_singleton]
    simp only [hiff]

theorem isNamed_of_sameTable {tables' : List (String × String)}
    (h : List.Forall₂ SameTable tables tables') :
    ∀ pair ∈ tables', ∃ t : TableName, t.IsNamed pair.1 := by
  induction h with
  | nil => exact List.forall_mem_nil _
  | cons hsame _ ih =>
    obtain ⟨-, t, -, hname⟩ := hsame
    exact List.forall_mem_cons.2 ⟨⟨t, hname⟩, ih⟩

/-- Neither the order of the pairs nor the names that are chosen make a difference. -/
theorem load_eq_ok_of_perm {order tables' : List (String × String)} (h : load tables = .ok s)
    (hperm : tables.Perm order) (hsame : List.Forall₂ SameTable order tables') :
    load tables' = .ok s := by
  obtain ⟨hnames, htexts⟩ := load_eq_ok_iff.1 h
  refine load_eq_ok_iff.2 ⟨isNamed_of_sameTable hsame, fun t => ?_⟩
  have hpermuted : ((textsOf t tables).map Table.parse).Perm ((textsOf t order).map Table.parse) :=
    ((hperm.filter _).map Prod.snd).map Table.parse
  rw [htexts t] at hpermuted
  rw [← textsOf_eq_of_sameTable hsame]
  exact hpermuted.singleton_eq.symm

/-- With what error the texts are turned down. -/
theorem load_eq_error_iff :
    load tables = .error e ↔ FirstFault tables e ∨ Sound tables ∧ Missing tables e := by
  rw [PartialStore.load_eq_loadAll_bind]
  constructor
  · intro h
    rcases sound_or_firstFault tables with hsound | ⟨e', hfault⟩
    · obtain ⟨p, hload, hholds⟩ := PartialStore.exists_loadAll_eq_ok hsound
      rw [hload] at h
      exact .inr ⟨hsound, hholds.toStore_eq_error_iff.1 h⟩
    · rw [PartialStore.loadAll_eq_error hfault] at h
      obtain rfl : e' = e := Except.error.inj h
      exact .inl hfault
  · rintro (hfault | ⟨hsound, hmissing⟩)
    · rw [PartialStore.loadAll_eq_error hfault]
      rfl
    · obtain ⟨p, hload, hholds⟩ := PartialStore.exists_loadAll_eq_ok hsound
      rw [hload]
      exact hholds.toStore_eq_error_iff.2 hmissing

/-- A store is loaded if and only if all names are known, all texts have a header, and there is one
text for every table.  It then holds what the texts are read as, and it is the same in whatever
order the texts are given and under whatever names of their tables.  In any other case the first pair
at fault decides the error, or else the first table that is missing. -/
theorem load_classified (tables : List (String × String)) :
    ((∃ s, load tables = .ok s) ↔ Loadable tables) ∧
      (∀ s, load tables = .ok s →
        (∀ t : TableName, ∀ pair ∈ tables, t.IsNamed pair.1 →
          Table.parse pair.2 = .ok (s.table t)) ∧
        ∀ order tables', tables.Perm order → List.Forall₂ SameTable order tables' →
          load tables' = .ok s) ∧
      ∀ e, load tables = .error e ↔ FirstFault tables e ∨ Sound tables ∧ Missing tables e := by
  refine ⟨exists_load_eq_ok_iff, fun s h => ⟨?_, ?_⟩, fun e => load_eq_error_iff⟩
  · intro t pair hpair hname
    exact parse_of_load h hpair hname
  · intro order tables' hperm hsame
    exact load_eq_ok_of_perm h hperm hsame

/-- Names with an accent and in capitals, in both orders, and a text that is no table before it is a
second one. -/
theorem load_classified_aliases :
    let owners := "\nowner_id,owner_name\n4,Ana "
    let tables := [("Dueños", owners), ("PERROS", "dog_id")]
    let renamed := [("dogs", "dog_id"), ("DUENOS", owners)]
    let s : Store := ⟨⟨["owner_id", "owner_name"], [["4", "Ana "]]⟩, ⟨["dog_id"], []⟩⟩
    let twice := [("dogs", "dog_id"), ("Perros", " \n"), ("cats", "")]
    (load tables = .ok s ∧ Loadable tables) ∧
      TableName.dogs.IsNamed "PERROS" ∧ Table.parse "dog_id" = .ok s.dogs ∧
      tables.Perm tables.reverse ∧ List.Forall₂ SameTable tables.reverse renamed ∧
      load renamed = .ok s ∧
      (FirstFault twice (.invalidTable "Perros" .missingHeader) ∨
        Sound twice ∧ Missing twice (.invalidTable "Perros" .missingHeader)) := by
  intro owners tables renamed s twice
  have hload : load tables = .ok s := by decide +kernel
  have hdogs : TableName.dogs.IsNamed "PERROS" := by decide +kernel
  have howners : TableName.owners.IsNamed "Dueños" := by decide +kernel
  have hperm : tables.Perm tables.reverse := (List.reverse_perm tables).symm
  have hsame : List.Forall₂ SameTable tables.reverse renamed := by
    refine .cons ⟨rfl, .dogs, hdogs, ?_⟩ (.cons ⟨rfl, .owners, howners, ?_⟩ .nil)
    · decide +kernel
    · decide +kernel
  have herror : load twice = .error (.invalidTable "Perros" .missingHeader) := by decide +kernel
  obtain ⟨hloadable, hstore, -⟩ := load_classified tables
  obtain ⟨hparse, hrenamed⟩ := hstore s hload
  obtain ⟨-, -, hfault⟩ := load_classified twice
  exact ⟨⟨hload, hloadable.1 ⟨s, hload⟩⟩, hdogs,
    hparse .dogs ("PERROS", "dog_id") (List.mem_cons_of_mem _ List.mem_cons_self) hdogs, hperm,
    hsame, hrenamed tables.reverse renamed hperm hsame, (hfault _).1 herror⟩

end Store

end DogRegistry
