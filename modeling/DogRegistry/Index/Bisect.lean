/-!
# Search by halving

A position in a row of entries that is found by halving the row.  The search looks at one entry of
every half it goes on with, so it gives an answer for entries in any order; where the entries are in
ascending order the answer does not depend on the way it was found.

## Main definitions

* `bisect above base size` — the position that halving ends at.
* `lastNotAbove keys key` — the same for keys: the last one that is not above `key`.

## Main results

* `bisect_spec` — where `above` holds from some position on, the position is the last in front
  of it.
* `lastNotAbove_lt` — the position lies in the row unless the row is empty.
* `lastNotAbove_of_sorted` — of sorted keys, those behind the position are above `key`, and the one
  at the position is not unless it is the first.
* `length_takeWhile_eq` — counts the entries at the front of a row.
-/

namespace DogRegistry

/-- The position that halving the `size` positions from `base` on ends at: the upper half is kept
unless `above` holds of its first position. -/
def bisect (above : Nat → Bool) (base size : Nat) : Nat :=
  if size ≤ 1 then base
  else if above (base + size / 2) then bisect above base (size - size / 2)
  else bisect above (base + size / 2) (size - size / 2)
termination_by size

/-- Halving ends at one of the positions, either the first one or one of which `above` does not
hold.  If with a position `above` holds of all later ones, then it holds of all positions behind the
one that was found. -/
theorem bisect_spec (above : Nat → Bool) (base size : Nat) :
    base ≤ bisect above base size ∧ (0 < size → bisect above base size < base + size) ∧
      (bisect above base size = base ∨ above (bisect above base size) = false) ∧
      ((∀ i j, i ≤ j → j < base + size → above i → above j) →
        ∀ j, bisect above base size < j → j < base + size → above j) := by
  fun_induction bisect above base size with
  | case1 base size h => exact ⟨Nat.le_refl _, by omega, .inl rfl, by omega⟩
  | case2 base size h ha ih =>
    obtain ⟨h₁, h₂, h₃, h₄⟩ := ih
    refine ⟨h₁, fun _ => ?_, h₃, fun hm j h₅ h₆ => ?_⟩
    · have := h₂ (by omega)
      omega
    · by_cases h₇ : j < base + (size - size / 2)
      · exact h₄ (fun i j h h' => hm i j h (by omega)) j h₅ h₇
      · exact hm _ j (by omega) h₆ ha
  | case3 base size h ha ih =>
    obtain ⟨h₁, h₂, h₃, h₄⟩ := ih
    refine ⟨by omega, fun _ => ?_, .inr ?_, fun hm j h₅ h₆ =>
      h₄ (fun i j h h' => hm i j h (by omega)) j h₅ (by omega)⟩
    · have := h₂ (by omega)
      omega
    · rcases h₃ with h₃ | h₃
      · rw [h₃]
        simpa using ha
      · exact h₃

/-- The position of the last key that is not above `key`, and `0` if all keys are above it. -/
def lastNotAbove (keys : List String) (key : String) : Nat :=
  bisect (fun i => keys[i]?.any fun k => key < k) 0 keys.length

theorem lastNotAbove_lt {keys : List String} (h : keys ≠ []) (key : String) :
    lastNotAbove keys key < keys.length := by
  have := (bisect_spec (fun i => keys[i]?.any fun k => key < k) 0 keys.length).2.1
    (List.length_pos_iff.2 h)
  simpa [lastNotAbove] using this

/-- Of keys in ascending order, those behind the position that was found are above `key`, and the
one at the position is not, unless it is the first one. -/
theorem lastNotAbove_of_sorted {keys : List String} (h : keys.Pairwise (· ≤ ·)) (key : String) :
    (∀ j (hj : j < keys.length), lastNotAbove keys key < j → key < keys[j]) ∧
      (lastNotAbove keys key = 0 ∨
        ∀ hi : lastNotAbove keys key < keys.length, keys[lastNotAbove keys key] ≤ key) := by
  obtain ⟨-, -, h₁, h₂⟩ := bisect_spec (fun i => keys[i]?.any fun k => key < k) 0 keys.length
  refine ⟨fun j hj h₃ => ?_, h₁.imp id fun h₃ hi => ?_⟩
  · have := h₂ (fun i j hij hj => ?_) j h₃ (by omega)
    · rwa [List.getElem?_eq_getElem hj, Option.any_some, decide_eq_true_eq] at this
    · rcases Nat.lt_or_eq_of_le hij with hij | rfl
      · have hj : j < keys.length := by omega
        have hi : i < keys.length := by omega
        have := List.pairwise_iff_getElem.1 h i j hi hj hij
        simp only [List.getElem?_eq_getElem, hi, hj, Option.any_some, decide_eq_true_eq]
        exact fun h => Std.lt_of_lt_of_le h this
      · exact id
  · have h₄ : lastNotAbove keys key < keys.length := hi
    change (keys[lastNotAbove keys key]?.any fun k => key < k) = false at h₃
    rw [List.getElem?_eq_getElem h₄, Option.any_some, decide_eq_false_iff_not] at h₃
    exact h₃

/-- The entries at the front for which `p` holds are the first `n` if it holds of these and not of
the next one. -/
theorem length_takeWhile_eq {α : Type} {p : α → Bool} {as : List α} {n : Nat} (hn : n ≤ as.length)
    (h₁ : ∀ i (hi : i < as.length), i < n → p as[i])
    (h₂ : ∀ hi : n < as.length, p as[n] = false) : (as.takeWhile p).length = n := by
  induction as generalizing n with
  | nil => simpa using (Nat.le_zero.1 hn).symm
  | cons a as ih =>
    cases n with
    | zero =>
      have h₃ : p a = false := h₂ (by simp)
      simp [h₃]
    | succ n =>
      have h₃ : p a = true := h₁ 0 (by simp) (by omega)
      rw [List.takeWhile_cons_of_pos h₃, List.length_cons, ih (by simpa using hn)]
      · exact fun i hi hin => h₁ (i + 1) (by simpa using hi) (by omega)
      · exact fun hi => h₂ (by simpa using hi)

end DogRegistry
