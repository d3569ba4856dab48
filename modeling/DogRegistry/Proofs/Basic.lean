/-!
# Lists and steps that may fail

Facts on lists and on results that have nothing to do with the registry.

## Main results

* `insertIdx_length_append`, `exists_append_of_length_eq`, `exists_of_append_eq_append_cons` — lists
  that are cut at a position.
* `map_filter_eq_self_iff` — a list that a selection and a map leave as it is.
* `bind_eq_ok_iff` — two steps succeed if the first does and the second does on its result.
-/

namespace DogRegistry

/-! ### Lists cut at a position -/

theorem insertIdx_length_append {α : Type} (as bs : List α) (a : α) :
    (as ++ bs).insertIdx as.length a = as ++ a :: bs := by
  induction as with
  | nil => rfl
  | cons b as ih => rw [List.cons_append, List.length_cons, List.insertIdx_succ_cons, ih]; rfl

/-- A list as long as another one is cut where the other one is. -/
theorem exists_append_of_length_eq {α β : Type} {ls : List α} {as bs : List β}
    (h : ls.length = (as ++ bs).length) :
    ∃ ms ns, ls = ms ++ ns ∧ ms.length = as.length ∧ ns.length = bs.length := by
  rw [List.length_append] at h
  refine ⟨ls.take as.length, ls.drop as.length, (List.take_append_drop _ _).symm, ?_, ?_⟩
  · rw [List.length_take]
    omega
  · rw [List.length_drop]
    omega

/-- A member of a list that is joined from two parts stands in one of them. -/
theorem exists_of_append_eq_append_cons {α : Type} {as bs pre post : List α} {c : α}
    (h : as ++ bs = pre ++ c :: post) :
    (∃ pre', pre = as ++ pre' ∧ bs = pre' ++ c :: post) ∨ ∃ rest, as = pre ++ c :: rest := by
  rcases List.append_eq_append_iff.1 h with ⟨pre', hpre, hbs⟩ | ⟨rest, has, hpost⟩
  · exact .inl ⟨pre', hpre, hbs⟩
  · cases rest with
    | nil => exact .inl ⟨[], by simpa using has.symm, hpost.symm⟩
    | cons d rest =>
      obtain ⟨rfl, -⟩ := List.cons.inj hpost
      exact .inr ⟨rest, has⟩

/-! ### Lists that stay as they are -/

/-- A list is kept by a selection and a map if and only if all of its members are. -/
theorem map_filter_eq_self_iff {α : Type} {p : α → Bool} {f : α → α} {as : List α} :
    (as.filter p).map f = as ↔ ∀ a ∈ as, p a ∧ f a = a := by
  constructor
  · intro h
    have hlength := congrArg List.length h
    rw [List.length_map] at hlength
    have hall : ∀ a ∈ as, p a := List.length_filter_eq_length_iff.1 hlength
    rw [List.filter_eq_self.2 hall] at h
    have hmap : as.map f = as.map id := h.trans (List.map_id as).symm
    exact fun a ha => ⟨hall a ha, List.map_inj_left.1 hmap a ha⟩
  · intro h
    have hmap : as.map f = as.map id := List.map_congr_left fun a ha => (h a ha).2
    rw [List.filter_eq_self.2 fun a ha => (h a ha).1, hmap, List.map_id]

/-! ### Steps that may fail -/

theorem bind_eq_ok_iff {ε α β : Type} {x : Except ε α} {f : α → Except ε β} {b : β} :
    x >>= f = .ok b ↔ ∃ a, x = .ok a ∧ f a = .ok b := by
  cases x with
  | error e => simp [bind, Except.bind]
  | ok a => simp [bind, Except.bind]

theorem bind_unit_eq_ok_iff {ε β : Type} {x : Except ε Unit} {y : Except ε β} {b : β} :
    (x >>= fun _ => y) = .ok b ↔ x = .ok () ∧ y = .ok b := by
  rw [bind_eq_ok_iff]
  exact ⟨fun ⟨_, h⟩ => h, fun h => ⟨(), h⟩⟩

end DogRegistry
