import DogRegistry.Text.Blank
import Mathlib.Data.List.DropRight

/-!
# Trimmed texts

What the removal of the blanks at the two ends leaves of a text.

## Main results

* `trimChars_eq_self` — a text that neither begins nor ends with a blank is left as it is.
* `isBlank_eq_false_of_head?_trimChars`, `isBlank_eq_false_of_getLast?_trimChars` — a trimmed text
  neither begins nor ends with one.
* `trimChars_sublist` — trimming only removes characters.
* `trim_eq_empty_iff` — only a text of blanks trims to nothing.
* `trimCharsEnd_append` — only the last part of a text is trimmed that is not blank.
* `trimChars_append` — behind a text with no blanks at its ends, only the end is trimmed.
* `trimChars_trimCharsEnd` — the end of a text may be trimmed beforehand.
* `trimChars_between_blanks` — blanks around a text make no difference once it is trimmed.
-/

namespace DogRegistry.Text

theorem dropWhile_isBlank_eq_self {cs : List Char}
    (h : ∀ c, cs.head? = some c → isBlank c = false) : cs.dropWhile isBlank = cs := by
  cases cs with
  | nil => rfl
  | cons c cs => rw [List.dropWhile_cons, h c rfl, if_neg Bool.false_ne_true]

theorem trimChars_eq_self {cs : List Char} (hfirst : ∀ c, cs.head? = some c → isBlank c = false)
    (hlast : ∀ c, cs.getLast? = some c → isBlank c = false) : trimChars cs = cs := by
  have hlast' : ∀ c, cs.reverse.head? = some c → isBlank c = false := by
    rwa [List.head?_reverse]
  rw [trimChars, dropWhile_isBlank_eq_self hfirst, trimCharsEnd, dropWhile_isBlank_eq_self hlast',
    List.reverse_reverse]

/-- A trimmed text does not begin with a blank. -/
theorem isBlank_eq_false_of_head?_trimChars {cs : List Char} {c : Char}
    (h : (trimChars cs).head? = some c) : isBlank c = false := by
  have hprefix : trimChars cs <+: cs.dropWhile isBlank := by
    rw [trimChars, trimCharsEnd, ← List.reverse_suffix, List.reverse_reverse]
    exact List.dropWhile_suffix isBlank
  obtain ⟨blanks, hblanks⟩ := hprefix
  have hnot := List.head?_dropWhile_not isBlank cs
  rwa [← hblanks, List.head?_append, h] at hnot

/-- A trimmed text does not end with a blank. -/
theorem isBlank_eq_false_of_getLast?_trimChars {cs : List Char} {c : Char}
    (h : (trimChars cs).getLast? = some c) : isBlank c = false := by
  have hnot := List.head?_dropWhile_not isBlank (cs.dropWhile isBlank).reverse
  rw [trimChars, trimCharsEnd, List.getLast?_reverse] at h
  rwa [h] at hnot

/-- Trimming once is enough. -/
theorem trim_trim (s : String) : trim (trim s) = trim s := by
  rw [← String.toList_inj, toList_trim, toList_trim]
  exact trimChars_eq_self (fun _ => isBlank_eq_false_of_head?_trimChars)
    (fun _ => isBlank_eq_false_of_getLast?_trimChars)

/-- Trimming only removes characters. -/
theorem trimChars_sublist (cs : List Char) : (trimChars cs).Sublist cs := by
  have hend : (trimChars cs).Sublist (cs.dropWhile isBlank) := by
    rw [trimChars, trimCharsEnd, ← List.reverse_sublist, List.reverse_reverse]
    exact List.dropWhile_sublist isBlank
  exact hend.trans (List.dropWhile_sublist isBlank)

theorem trim_eq_empty_iff (s : String) : trim s = "" ↔ isBlankText s := by
  rw [← String.toList_eq_nil_iff, toList_trim, trimChars_eq_nil_iff, isBlankText, List.all_eq_true]

/-! ### One end of a text -/

theorem dropWhile_isBlank_append (cs ds : List Char) :
    (cs ++ ds).dropWhile isBlank =
      if cs.all isBlank then ds.dropWhile isBlank else cs.dropWhile isBlank ++ ds := by
  have hempty : (cs.dropWhile isBlank).isEmpty = cs.all isBlank := by
    rw [Bool.eq_iff_iff, List.isEmpty_iff, dropWhile_isBlank_eq_nil_iff, List.all_eq_true]
  rw [List.dropWhile_append, hempty]

/-- Only the last part of a text is trimmed that is not blank. -/
theorem trimCharsEnd_append (cs ds : List Char) :
    trimCharsEnd (cs ++ ds) =
      if ds.all isBlank then trimCharsEnd cs else cs ++ trimCharsEnd ds := by
  rw [trimCharsEnd, List.reverse_append, dropWhile_isBlank_append, List.all_reverse]
  split
  next => rfl
  next => rw [List.reverse_append, List.reverse_reverse, trimCharsEnd]

/-- If a text neither begins nor ends with a blank, only what follows it is trimmed. -/
theorem trimChars_append {cs : List Char} (hne : cs ≠ [])
    (hfirst : ∀ c, cs.head? = some c → isBlank c = false)
    (hlast : ∀ c, cs.getLast? = some c → isBlank c = false) (ds : List Char) :
    trimChars (cs ++ ds) = cs ++ trimCharsEnd ds := by
  have hfirst' : ∀ c, (cs ++ ds).head? = some c → isBlank c = false := by
    intro c hc
    rw [List.head?_append_of_ne_nil cs hne] at hc
    exact hfirst c hc
  rw [trimChars, dropWhile_isBlank_eq_self hfirst', trimCharsEnd_append]
  split
  next hblank =>
    have hself := trimChars_eq_self hfirst hlast
    rw [trimChars, dropWhile_isBlank_eq_self hfirst] at hself
    rw [hself, (trimCharsEnd_eq_nil_iff ds).2 (List.all_eq_true.1 hblank), List.append_nil]
  next => rfl

/-- What is trimmed at the end of a text are blanks. -/
theorem exists_trimCharsEnd_append (cs : List Char) :
    ∃ blanks, cs = trimCharsEnd cs ++ blanks ∧ ∀ b ∈ blanks, isBlank b := by
  refine ⟨(cs.reverse.takeWhile isBlank).reverse, ?_, fun b hb => ?_⟩
  · rw [trimCharsEnd, ← List.reverse_append, List.takeWhile_append_dropWhile, List.reverse_reverse]
  · exact List.mem_takeWhile_imp (List.mem_reverse.1 hb)

theorem trimCharsEnd_sublist (cs : List Char) : (trimCharsEnd cs).Sublist cs := by
  rw [trimCharsEnd, ← List.reverse_sublist, List.reverse_reverse]
  exact List.dropWhile_sublist isBlank

theorem trimCharsEnd_trimCharsEnd (cs : List Char) :
    trimCharsEnd (trimCharsEnd cs) = trimCharsEnd cs :=
  List.rdropWhile_idempotent isBlank cs

/-- The two ends of a text can be trimmed in any order. -/
theorem dropWhile_isBlank_trimCharsEnd (cs : List Char) :
    (trimCharsEnd cs).dropWhile isBlank = trimCharsEnd (cs.dropWhile isBlank) := by
  induction cs with
  | nil => rfl
  | cons c cs ih =>
    have hcut := trimCharsEnd_append [c] cs
    rw [List.singleton_append] at hcut
    by_cases hc : isBlank c
    · -- the first character is dropped on both sides
      rw [List.dropWhile_cons, if_pos hc, ← ih, hcut]
      split
      next hblank =>
        have hnil : trimCharsEnd cs = [] :=
          (trimCharsEnd_eq_nil_iff cs).2 (List.all_eq_true.1 hblank)
        rw [hnil]
        simp [trimCharsEnd, hc]
      next => rw [List.singleton_append, List.dropWhile_cons, if_pos hc]
    · -- and the first character stays on both sides
      rw [List.dropWhile_cons, if_neg hc, hcut]
      split
      next => simp [trimCharsEnd, hc]
      next => rw [List.singleton_append, List.dropWhile_cons, if_neg hc]

/-- The end of a text may be trimmed beforehand. -/
theorem trimChars_trimCharsEnd (cs : List Char) : trimChars (trimCharsEnd cs) = trimChars cs := by
  rw [trimChars, dropWhile_isBlank_trimCharsEnd, trimCharsEnd_trimCharsEnd, trimChars]

/-- Blanks around a text make no difference once it is trimmed. -/
theorem trimChars_between_blanks {before after : List Char} (hbefore : ∀ b ∈ before, isBlank b)
    (hafter : ∀ b ∈ after, isBlank b) (cs : List Char) :
    trimChars (before ++ (cs ++ after)) = trimChars cs := by
  have hend : trimCharsEnd (cs ++ after) = trimCharsEnd cs := by
    rw [trimCharsEnd_append, if_pos (List.all_eq_true.2 hafter)]
  calc trimChars (before ++ (cs ++ after))
      = trimChars (cs ++ after) := by
        rw [trimChars, List.dropWhile_append_of_pos hbefore, trimChars]
    _ = trimChars (trimCharsEnd (cs ++ after)) := (trimChars_trimCharsEnd _).symm
    _ = trimChars cs := by rw [hend, trimChars_trimCharsEnd]

theorem not_mem_of_isBlankText {s : String} {c : Char} (h : isBlankText s)
    (hc : isBlank c = false) : c ∉ s.toList := by
  intro hmem
  exact Bool.false_ne_true (hc.symm.trans (List.all_eq_true.1 h c hmem))

/-- A decimal digit is not blank. -/
theorem isBlank_eq_false_of_isDigit {c : Char} (h : c.isDigit) : isBlank c = false := by
  have hrange : 48 ≤ c.toNat ∧ c.toNat ≤ 57 := by
    simpa [Char.isDigit, UInt32.le_iff_toNat_le] using h
  simp only [isBlank, inRanges, blankRanges, List.any_cons, List.any_nil, Bool.or_false,
    Bool.or_eq_false_iff, Bool.and_eq_false_iff, decide_eq_false_iff_not]
  omega

end DogRegistry.Text
