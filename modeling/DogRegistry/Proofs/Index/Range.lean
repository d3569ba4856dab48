import DogRegistry.Index.Check
import Mathlib.Data.String.Basic

/-!
# Ascending keys within a range

The keys of every node are strictly ascending and lie in the half-open range that the nodes above
assign.

## Main definitions

* `KeysWithin lower upper ks` — `ks` is strictly ascending and lies in the range.

## Main results

* `inRange_iff` — what it means to lie in a range.
* `KeysWithin.left_of_append`, `KeysWithin.right_of_append` — a key cuts the keys and the range
  alike, and `KeysWithin.append` puts the pieces together.
* `KeysWithin.insert` — one more key at its place.
* `checkKeys_eq_ok_iff` — the check of a node's own keys decides `KeysWithin`.
* `childIndex_cons` — the child that covers a key, one separator at a time.
-/

namespace DogRegistry

variable {lower upper : Option String} {key sep : String} {ks as bs : List String}

/-! ### Ranges -/

theorem inRange_iff :
    inRange lower upper key ↔ (∀ lo ∈ lower, lo ≤ key) ∧ ∀ hi ∈ upper, key < hi := by
  rw [inRange, Bool.and_eq_true, Option.all_eq_true, Option.all_eq_true]
  simp only [decide_eq_true_eq, Option.mem_def]

theorem inRange_none_none (key : String) : inRange none none key := rfl

theorem le_of_inRange (h : inRange (some sep) upper key) : sep ≤ key :=
  (inRange_iff.1 h).1 sep rfl

theorem lt_of_inRange (h : inRange lower (some sep) key) : key < sep :=
  (inRange_iff.1 h).2 sep rfl

/-- Above a separator the range begins at the separator. -/
theorem inRange_some_left (h : inRange lower upper key) (hle : sep ≤ key) :
    inRange (some sep) upper key := by
  refine inRange_iff.2 ⟨fun lo hlo => ?_, (inRange_iff.1 h).2⟩
  exact Option.some_inj.1 hlo ▸ hle

/-- Below a separator the range ends at the separator. -/
theorem inRange_some_right (h : inRange lower upper key) (hlt : key < sep) :
    inRange lower (some sep) key := by
  refine inRange_iff.2 ⟨(inRange_iff.1 h).1, fun hi hhi => ?_⟩
  exact Option.some_inj.1 hhi ▸ hlt

theorem inRange_widen_left (hsep : inRange lower upper sep) (h : inRange (some sep) upper key) :
    inRange lower upper key := by
  refine inRange_iff.2 ⟨fun lo hlo => ?_, (inRange_iff.1 h).2⟩
  exact le_trans ((inRange_iff.1 hsep).1 lo hlo) (le_of_inRange h)

theorem inRange_widen_right (hsep : inRange lower upper sep) (h : inRange lower (some sep) key) :
    inRange lower upper key := by
  refine inRange_iff.2 ⟨(inRange_iff.1 h).1, fun hi hhi => ?_⟩
  exact lt_trans (lt_of_inRange h) ((inRange_iff.1 hsep).2 hi hhi)

/-! ### Keys within a range -/

/-- The keys are strictly ascending and lie between the bounds. -/
structure KeysWithin (lower upper : Option String) (ks : List String) : Prop where
  /-- Every key is below all later ones. -/
  ascending : ks.Pairwise (· < ·)
  /-- Every key lies in the range. -/
  within : ∀ k ∈ ks, inRange lower upper k

namespace KeysWithin

theorem nil : KeysWithin lower upper [] :=
  ⟨List.Pairwise.nil, fun _ hk => absurd hk List.not_mem_nil⟩

theorem tail (h : KeysWithin lower upper (sep :: ks)) : KeysWithin (some sep) upper ks := by
  obtain ⟨hlt, hks⟩ := List.pairwise_cons.1 h.ascending
  refine ⟨hks, ?_⟩
  intro k hk
  exact inRange_some_left (h.within k (List.mem_cons_of_mem sep hk)) (le_of_lt (hlt k hk))

theorem left_of_append (h : KeysWithin lower upper (as ++ sep :: bs)) :
    KeysWithin lower (some sep) as := by
  obtain ⟨has, -, hlt⟩ := List.pairwise_append.1 h.ascending
  refine ⟨has, ?_⟩
  intro k hk
  exact inRange_some_right (h.within k (List.mem_append_left _ hk))
    (hlt k hk sep List.mem_cons_self)

theorem right_of_append (h : KeysWithin lower upper (as ++ sep :: bs)) :
    KeysWithin (some sep) upper (sep :: bs) := by
  obtain ⟨-, hbs, -⟩ := List.pairwise_append.1 h.ascending
  refine ⟨hbs, ?_⟩
  intro k hk
  refine inRange_some_left (h.within k (List.mem_append_right as hk)) ?_
  rcases List.mem_cons.1 hk with rfl | hk
  · exact le_refl k
  · exact le_of_lt ((List.pairwise_cons.1 hbs).1 k hk)

/-- A key that is not the first one lies strictly within the range. -/
theorem strictly_within (h : KeysWithin lower upper (as ++ sep :: bs)) (has : as ≠ []) :
    inRange lower upper sep ∧ ∀ a ∈ lower, a < sep := by
  refine ⟨h.within sep (List.mem_append_right as List.mem_cons_self), fun a ha => ?_⟩
  obtain ⟨first, as, rfl⟩ := List.exists_cons_of_ne_nil has
  have hfirst : inRange lower upper first := h.within first List.mem_cons_self
  have hlt : first < sep :=
    (List.pairwise_cons.1 h.ascending).1 sep (List.mem_append_right as List.mem_cons_self)
  exact lt_of_le_of_lt ((inRange_iff.1 hfirst).1 a ha) hlt

/-- Keys below a separator, and keys from it on. -/
theorem append (has : KeysWithin lower (some sep) as) (hbs : KeysWithin (some sep) upper bs)
    (hsep : inRange lower upper sep) : KeysWithin lower upper (as ++ bs) := by
  refine ⟨List.pairwise_append.2 ⟨has.ascending, hbs.ascending, ?_⟩, ?_⟩
  · intro a ha b hb
    exact lt_of_lt_of_le (lt_of_inRange (has.within a ha)) (le_of_inRange (hbs.within b hb))
  · intro k hk
    rcases List.mem_append.1 hk with hk | hk
    · exact inRange_widen_right hsep (has.within k hk)
    · exact inRange_widen_left hsep (hbs.within k hk)

/-- One more key, between those below and those above it. -/
theorem insert (h : KeysWithin lower upper (as ++ bs)) (hkey : inRange lower upper key)
    (has : ∀ a ∈ as, a < key) (hbs : ∀ b ∈ bs, key < b) :
    KeysWithin lower upper (as ++ key :: bs) := by
  obtain ⟨ha, hb, hab⟩ := List.pairwise_append.1 h.ascending
  refine ⟨List.pairwise_append.2 ⟨ha, List.pairwise_cons.2 ⟨hbs, hb⟩, ?_⟩, ?_⟩
  · intro a hmem b hb'
    rcases List.mem_cons.1 hb' with rfl | hb'
    · exact has a hmem
    · exact hab a hmem b hb'
  · intro k hk
    rcases List.mem_append.1 hk with hk | hk
    · exact h.within k (List.mem_append_left bs hk)
    · rcases List.mem_cons.1 hk with rfl | hk
      · exact hkey
      · exact h.within k (List.mem_append_right as hk)

end KeysWithin

/-! ### The check of the keys -/

theorem increasing_iff (ks : List String) : increasing ks ↔ ks.Pairwise (· < ·) := by
  rw [← List.isChain_iff_pairwise]
  fun_induction increasing ks with
  | case1 => simp
  | case2 k => simp
  | case3 a b rest ih => rw [Bool.and_eq_true, ih, decide_eq_true_eq, List.isChain_cons_cons]

theorem checkKeys_eq_ok_iff : checkKeys lower upper ks = .ok () ↔ KeysWithin lower upper ks := by
  rw [checkKeys]
  by_cases hinc : increasing ks
  · rw [hinc, Bool.not_true, if_neg Bool.false_ne_true]
    cases hfind : ks.find? fun k => !inRange lower upper k with
    | none =>
      refine iff_of_true rfl ⟨(increasing_iff ks).1 hinc, ?_⟩
      intro k hk
      simpa using List.find?_eq_none.1 hfind k hk
    | some k =>
      -- the first key that is reported lies outside of the range
      refine iff_of_false (by simp) ?_
      intro h
      have hout := List.find?_some hfind
      rw [h.within k (List.mem_of_find?_eq_some hfind)] at hout
      exact Bool.false_ne_true hout
  · rw [Bool.eq_false_iff.2 hinc, Bool.not_false, if_pos rfl]
    exact iff_of_false (by simp) fun h => hinc ((increasing_iff ks).2 h.ascending)

/-! ### The child that covers a key -/

/-- A separator that is not above the key is passed, and with the first other one the child is
found. -/
theorem childIndex_cons (h : (sep :: ks).Pairwise (· < ·)) (key : String) :
    childIndex (sep :: ks) key = if sep ≤ key then childIndex ks key + 1 else 0 := by
  have hle : (sep :: ks).Pairwise (· ≤ ·) := h.imp le_of_lt
  rw [childIndex_eq_length_takeWhile hle,
    childIndex_eq_length_takeWhile (List.pairwise_cons.1 hle).2, List.takeWhile_cons]
  by_cases hk : sep ≤ key
  · rw [if_pos hk, decide_eq_true hk, if_pos rfl, List.length_cons]
  · rw [if_neg hk, decide_eq_false hk, if_neg Bool.false_ne_true, List.length_nil]

end DogRegistry
