import DogRegistry.Text.Split
import Mathlib.Data.List.Basic
import Mathlib.Tactic.Tauto

/-!
# Cutting and joining texts

Cutting a text at a separator and joining pieces with it undo each other, as long as the separator
stands in no piece.

## Main results

* `not_mem_of_mem_splitAtChar` — no piece of a text holds the separator.
* `splitAtChar_intercalate` — pieces without the separator that are joined and cut again are the
  same.
* `splitAtChar_intercalate_eq_flatMap` — other pieces are cut one by one.
* `length_splitOn` — there is one piece more than there are separators.
* `mem_toList_intercalate_iff` — the characters of joined pieces.
-/

namespace DogRegistry.Text

theorem not_mem_of_mem_splitOn {sep : Char} {cs piece : List Char}
    (h : piece ∈ cs.splitOn sep) : sep ∉ piece := by
  induction cs generalizing piece with
  | nil =>
    rw [List.splitOn_nil, List.mem_singleton] at h
    rw [h]
    exact List.not_mem_nil
  | cons c cs ih =>
    rw [List.splitOn_cons_eq_if_modifyHead] at h
    by_cases hc : c = sep
    · rw [if_pos (beq_iff_eq.2 hc)] at h
      rcases List.mem_cons.1 h with rfl | h
      · exact List.not_mem_nil
      · exact ih h
    · rw [if_neg fun h => hc (beq_iff_eq.1 h)] at h
      -- the character joins the first piece of what follows
      obtain ⟨first, pieces, hpieces⟩ := List.exists_cons_of_ne_nil (List.splitOn_ne_nil sep cs)
      rw [hpieces, List.modifyHead_cons] at h
      rcases List.mem_cons.1 h with rfl | h
      · intro hsep
        rcases List.mem_cons.1 hsep with rfl | hsep
        · exact hc rfl
        · exact ih (hpieces ▸ List.mem_cons_self) hsep
      · exact ih (hpieces ▸ List.mem_cons_of_mem _ h)

/-- There is one piece more than there are separators. -/
theorem length_splitOn (sep : Char) (cs : List Char) :
    (cs.splitOn sep).length = cs.count sep + 1 := by
  induction cs with
  | nil => rfl
  | cons c cs ih =>
    rw [List.splitOn_cons_eq_if_modifyHead, List.count_cons]
    split
    next => rw [List.length_cons, ih]
    next => rw [List.length_modifyHead, ih, Nat.add_zero]

/-- No piece of a text holds the separator. -/
theorem not_mem_of_mem_splitAtChar {sep : Char} {s piece : String}
    (h : piece ∈ splitAtChar sep s) : sep ∉ piece.toList := by
  obtain ⟨cs, hcs, rfl⟩ := List.mem_map.1 h
  rw [String.toList_ofList]
  exact not_mem_of_mem_splitOn hcs

/-- There is at least one piece. -/
theorem splitAtChar_ne_nil (sep : Char) (s : String) : splitAtChar sep s ≠ [] := by
  intro h
  exact List.splitOn_ne_nil sep s.toList (List.map_eq_nil_iff.1 h)

/-- Pieces without the separator that are joined and cut again are the same. -/
theorem splitAtChar_intercalate {sep : Char} {pieces : List String}
    (h : ∀ piece ∈ pieces, sep ∉ piece.toList) (hne : pieces ≠ []) :
    splitAtChar sep ((String.singleton sep).intercalate pieces) = pieces := by
  have hcut : ([sep].intercalate (pieces.map String.toList)).splitOn sep =
      pieces.map String.toList := by
    refine List.splitOn_intercalate sep ?_ fun hnil => hne (List.map_eq_nil_iff.1 hnil)
    intro cs hcs
    obtain ⟨piece, hpiece, rfl⟩ := List.mem_map.1 hcs
    exact h piece hpiece
  rw [splitAtChar, String.toList_intercalate, String.toList_singleton, hcut, List.map_map]
  exact List.map_id'' (fun piece => String.ofList_toList) pieces

/-- A text without the separator is its only piece. -/
theorem splitAtChar_of_not_mem {sep : Char} {s : String} (h : sep ∉ s.toList) :
    splitAtChar sep s = [s] := by
  have hpieces : ∀ piece ∈ [s], sep ∉ piece.toList := List.forall_mem_singleton.2 h
  have hcut := splitAtChar_intercalate hpieces (List.cons_ne_nil s [])
  rwa [String.intercalate_singleton] at hcut

/-- A text is cut at a separator into the pieces in front of it and those behind it. -/
theorem splitAtChar_append (sep : Char) (s t : String) :
    splitAtChar sep (s ++ String.singleton sep ++ t) = splitAtChar sep s ++ splitAtChar sep t := by
  rw [splitAtChar, String.toList_append, String.toList_append, String.toList_singleton,
    List.append_assoc, List.singleton_append, List.splitOn_append_cons_self, List.map_append]
  rfl

/-- Pieces that are joined and cut again are cut one by one. -/
theorem splitAtChar_intercalate_eq_flatMap (sep : Char) {pieces : List String}
    (hne : pieces ≠ []) :
    splitAtChar sep ((String.singleton sep).intercalate pieces) =
      pieces.flatMap (splitAtChar sep) := by
  induction pieces with
  | nil => exact absurd rfl hne
  | cons first pieces ih =>
    cases pieces with
    | nil => rw [String.intercalate_singleton, List.flatMap_singleton]
    | cons second pieces =>
      rw [String.intercalate_cons_cons, splitAtChar_append, ih (List.cons_ne_nil _ _)]
      rfl

/-- Text in front of joined pieces belongs to the first one. -/
theorem append_intercalate_cons (text sep first : String) (pieces : List String) :
    text ++ sep.intercalate (first :: pieces) = sep.intercalate ((text ++ first) :: pieces) := by
  cases pieces with
  | nil => rw [String.intercalate_singleton, String.intercalate_singleton]
  | cons second pieces =>
    rw [String.intercalate_cons_cons, String.intercalate_cons_cons]
    simp only [String.append_assoc]

/-- The characters of joined pieces are those of the pieces, and of the separator if there are two
of them. -/
theorem mem_toList_intercalate_iff {sep : String} {c : Char} {pieces : List String} :
    c ∈ (sep.intercalate pieces).toList ↔
      (c ∈ sep.toList ∧ 2 ≤ pieces.length) ∨ ∃ piece ∈ pieces, c ∈ piece.toList := by
  induction pieces with
  | nil => simp
  | cons first pieces ih =>
    cases pieces with
    | nil => simp [String.intercalate_singleton]
    | cons second pieces =>
      rw [String.intercalate_cons_cons, String.toList_append, String.toList_append,
        List.mem_append, List.mem_append, ih, List.exists_mem_cons_iff _ first]
      have hlength : 2 ≤ (first :: second :: pieces).length := by simp
      tauto

/-- Joined pieces hold no character that neither the separator nor a piece holds. -/
theorem not_mem_toList_intercalate {sep : String} {c : Char} {pieces : List String}
    (hsep : c ∉ sep.toList) (h : ∀ piece ∈ pieces, c ∉ piece.toList) :
    c ∉ (sep.intercalate pieces).toList := by
  intro hmem
  rcases mem_toList_intercalate_iff.1 hmem with ⟨hsep', -⟩ | ⟨piece, hpiece, hc⟩
  · exact hsep hsep'
  · exact h piece hpiece hc

/-- The characters of the pieces of a text are characters of the text. -/
theorem mem_of_mem_splitAtChar {sep c : Char} {s piece : String} (h : piece ∈ splitAtChar sep s)
    (hc : c ∈ piece.toList) : c ∈ s.toList := by
  rw [← intercalate_splitAtChar sep s]
  exact mem_toList_intercalate_iff.2 (.inr ⟨piece, h, hc⟩)

/-- The same for lists of characters. -/
theorem subset_of_mem_splitOn {sep : Char} {cs piece : List Char} (h : piece ∈ cs.splitOn sep) :
    piece ⊆ cs := by
  intro c hc
  have hpiece : String.ofList piece ∈ splitAtChar sep (String.ofList cs) := by
    rw [splitAtChar, String.toList_ofList]
    exact List.mem_map_of_mem h
  rw [← String.toList_ofList (l := piece)] at hc
  rw [← String.toList_ofList (l := cs)]
  exact mem_of_mem_splitAtChar hpiece hc

end DogRegistry.Text
