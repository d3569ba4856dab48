import DogRegistry.Proofs.Text.Trim
import DogRegistry.Text.LowerCase
import Mathlib

/-!
# Blanks and letter case

Lower-casing neither makes a blank out of a letter nor a letter out of a blank.  So a text that has
the same lower-case form as a trimmed one has no blanks at its ends either.

## Main results

* `isBlank_of_mem_lowerChar` — the lower-case form of a character is blank if the character is.
* `head?_lowerCaseFrom_isBlank`, `getLast?_lowerCaseFrom_isBlank` — a lower-case form has blanks at
  its ends where the text has them.
* `trim_eq_self_of_lowerCase_trim_eq` — texts that agree with a trimmed one are trimmed.
-/

namespace DogRegistry.Text

/-! ### Characters -/

/-- No letter of a run is blank, and neither is a lower-case form of one. -/
theorem lowerCaseRuns_not_blank : ∀ run ∈ lowerCaseRuns, ∀ r ∈ blankRanges,
    (run.last < r.1 ∨ r.2 < run.first) ∧
      (run.last + run.shift < r.1 ∨ r.2 < run.first + run.shift) := by
  decide +kernel

theorem blankRanges_pos : ∀ r ∈ blankRanges, 0 < r.1 := by
  decide

theorem isBlank_eq_false_iff (c : Char) :
    isBlank c = false ↔ ∀ r ∈ blankRanges, c.toNat < r.1 ∨ r.2 < c.toNat := by
  simp only [isBlank, inRanges, List.any_eq_false, Bool.and_eq_true, decide_eq_true_eq,
    Classical.not_and_iff_not_or_not, Nat.not_le]

/-- A code point that is no character stands for the character `0`. -/
theorem toNat_ofNat (n : Nat) : (Char.ofNat n).toNat = n ∨ (Char.ofNat n).toNat = 0 := by
  rw [Char.ofNat]
  split
  · exact .inl rfl
  · exact .inr rfl

/-- A run applies to no blank and gives none. -/
theorem CaseRun.isBlank_of_apply?_eq_some {run : CaseRun} (hrun : run ∈ lowerCaseRuns) {c d : Char}
    (h : run.apply? c.toNat = some d) : isBlank c = false ∧ isBlank d = false := by
  unfold CaseRun.apply? at h
  split at h
  next hin =>
    obtain rfl := Option.some.inj h
    simp only [Bool.and_eq_true, decide_eq_true_eq] at hin
    rw [isBlank_eq_false_iff, isBlank_eq_false_iff]
    refine ⟨fun r hr => ?_, fun r hr => ?_⟩
    · have hfree := (lowerCaseRuns_not_blank run hrun r hr).1
      omega
    · have hfree := (lowerCaseRuns_not_blank run hrun r hr).2
      have hpos := blankRanges_pos r hr
      rcases toNat_ofNat (c.toNat + run.shift).toNat with hnat | hnat
      · omega
      · omega
  next => exact absurd h (by simp)

theorem isBlank_toLower_ofNat : ∀ n < 128,
    isBlank (Char.ofNat n).toLower = isBlank (Char.ofNat n) := by
  decide +kernel

/-- The lower-case form of a character is blank if the character is. -/
theorem isBlank_of_mem_lowerChar {c d : Char} (h : d ∈ lowerChar c) : isBlank d = isBlank c := by
  rw [lowerChar] at h
  split at h
  next hascii =>
    rw [List.mem_singleton.1 h, ← Char.ofNat_toNat c]
    exact isBlank_toLower_ofNat c.toNat hascii
  next =>
    split at h
    next hdotted =>
      rw [hdotted]
      rcases List.mem_cons.1 h with rfl | h
      · decide
      · rw [List.mem_singleton.1 h]
        decide
    next =>
      obtain rfl := List.mem_singleton.1 h
      cases hrun : lowerCaseRuns.findSome? fun run => run.apply? c.toNat with
      | none => rfl
      | some d =>
        obtain ⟨run, hmem, happly⟩ := List.exists_of_findSome?_eq_some hrun
        obtain ⟨hc, hd⟩ := run.isBlank_of_apply?_eq_some hmem happly
        rw [Option.getD_some, hc, hd]

theorem lowerChar_ne_nil (c : Char) : lowerChar c ≠ [] := by
  rw [lowerChar]
  split
  · exact List.cons_ne_nil _ _
  · split
    · exact List.cons_ne_nil _ _
    · exact List.cons_ne_nil _ _

/-! ### Texts -/

/-- A character is replaced by at least one character, which is blank if the character is. -/
theorem lowerCaseFrom_cons (before : List Char) (c : Char) (cs : List Char) :
    ∃ piece, piece ≠ [] ∧ (∀ d ∈ piece, isBlank d = isBlank c) ∧
      lowerCaseFrom before (c :: cs) = piece ++ lowerCaseFrom (c :: before) cs := by
  refine ⟨_, ?_, ?_, rfl⟩
  · split
    · exact List.cons_ne_nil _ _
    · exact lowerChar_ne_nil c
  · split
    next h =>
      intro d hd
      rw [List.mem_singleton.1 hd, h]
      split
      · decide
      · decide
    next => exact fun d hd => isBlank_of_mem_lowerChar hd

/-- A lower-case form begins with a blank if the text does. -/
theorem head?_lowerCaseFrom_isBlank (before cs : List Char) :
    (lowerCaseFrom before cs).head?.map isBlank = cs.head?.map isBlank := by
  cases cs with
  | nil => rfl
  | cons c cs =>
    obtain ⟨piece, hpiece, hblank, hcons⟩ := lowerCaseFrom_cons before c cs
    obtain ⟨d, piece, rfl⟩ := List.exists_cons_of_ne_nil hpiece
    rw [hcons, List.cons_append, List.head?_cons, List.head?_cons, Option.map_some,
      Option.map_some, hblank d List.mem_cons_self]

/-- A lower-case form ends with a blank if the text does. -/
theorem getLast?_lowerCaseFrom_isBlank (before cs : List Char) :
    (lowerCaseFrom before cs).getLast?.map isBlank = cs.getLast?.map isBlank := by
  induction cs generalizing before with
  | nil => rfl
  | cons c cs ih =>
    obtain ⟨piece, hpiece, hblank, hcons⟩ := lowerCaseFrom_cons before c cs
    have hlast : piece.getLast?.map isBlank = some (isBlank c) := by
      rw [List.getLast?_eq_some_getLast hpiece, Option.map_some, hblank _ (List.getLast_mem hpiece)]
    rw [hcons, List.getLast?_append, Option.map_or, ih, hlast, List.getLast?_cons]
    cases cs.getLast? with
    | none => rfl
    | some d => rfl

/-- A text that is trimmed to another one, case ignored, is trimmed itself. -/
theorem trim_eq_self_of_lowerCase_trim_eq {s t : String} (h : lowerCase (trim s) = lowerCase t) :
    trim t = t := by
  have hforms : lowerCaseFrom [] (trimChars s.toList) = lowerCaseFrom [] t.toList := by
    rw [← toList_trim]
    exact String.ofList_injective h
  have hhead : (trimChars s.toList).head?.map isBlank = t.toList.head?.map isBlank := by
    rw [← head?_lowerCaseFrom_isBlank [], hforms, head?_lowerCaseFrom_isBlank]
  have hlast : (trimChars s.toList).getLast?.map isBlank = t.toList.getLast?.map isBlank := by
    rw [← getLast?_lowerCaseFrom_isBlank [], hforms, getLast?_lowerCaseFrom_isBlank]
  rw [← String.toList_inj, toList_trim]
  refine trimChars_eq_self (fun c hc => ?_) (fun c hc => ?_)
  · rw [hc, Option.map_some] at hhead
    obtain ⟨c', hc', hblank⟩ := Option.map_eq_some_iff.1 hhead
    rw [← hblank, isBlank_eq_false_of_head?_trimChars hc']
  · rw [hc, Option.map_some] at hlast
    obtain ⟨c', hc', hblank⟩ := Option.map_eq_some_iff.1 hlast
    rw [← hblank, isBlank_eq_false_of_getLast?_trimChars hc']

end DogRegistry.Text
