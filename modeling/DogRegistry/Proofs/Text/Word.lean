import DogRegistry.Proofs.Text.LowerCase
import DogRegistry.Text.Word

/-!
# Word characters

No word character is blank, so words and the blanks between them can be told apart.  Lower-casing
makes a word character of nothing else, so whatever is a word in lower case is one as it is written.

## Main results

* `takeWhile_append_of_stop` — a run of characters of one class ends where another class begins.
* `isBlank_eq_false_of_isWordChar` — no word character is blank.
* `isWordChar_of_mem_lowerChar`, `isWordChar_of_lowerCaseFrom` — a character whose lower-case form
  is a word character is one itself, and so are those of a text.
-/

namespace DogRegistry.Text

/-! ### Runs -/

/-- A run of characters of one class ends where a character of another class follows. -/
theorem takeWhile_append_of_stop {p : Char → Bool} {run rest : List Char} (hrun : ∀ c ∈ run, p c)
    (hrest : ∀ c, rest.head? = some c → p c = false) :
    (run ++ rest).takeWhile p = run ∧ (run ++ rest).dropWhile p = rest := by
  rw [List.takeWhile_append_of_pos hrun, List.dropWhile_append_of_pos hrun]
  cases rest with
  | nil => exact ⟨List.append_nil run, rfl⟩
  | cons c rest =>
    have hc : ¬ p c := by rw [hrest c rfl]; exact Bool.false_ne_true
    rw [List.takeWhile_cons_of_neg hc, List.dropWhile_cons_of_neg hc]
    exact ⟨List.append_nil run, rfl⟩

/-! ### Word characters and blanks -/

/-- No range of letters and numbers meets one of blanks. -/
theorem alphanumericRanges_not_blank : ∀ r ∈ alphanumericRanges, ∀ b ∈ blankRanges,
    r.2.blt b.1 || b.2.blt r.1 := by
  decide +kernel

theorem isBlank_eq_false_of_ascii : ∀ n < 128, isWordChar (Char.ofNat n) →
    isBlank (Char.ofNat n) = false := by
  decide +kernel

theorem inRanges_iff {table : List (Nat × Nat)} {n : Nat} :
    inRanges table n ↔ ∃ r ∈ table, r.1 ≤ n ∧ n ≤ r.2 := by
  simp only [inRanges, List.any_eq_true, Bool.and_eq_true, decide_eq_true_eq]

/-- Beyond ASCII the word characters are those of the table. -/
theorem isWordChar_iff_of_le {c : Char} (h : 128 ≤ c.toNat) :
    isWordChar c ↔ inRanges alphanumericRanges c.toNat := by
  have hunderscore : (c == '_') = false := by
    refine beq_eq_false_iff_ne.2 ?_
    rintro rfl
    exact absurd h (by decide)
  rw [isWordChar, isAlphanumeric, if_neg (Nat.not_lt.2 h), hunderscore, Bool.or_false]

/-- No word character is blank. -/
theorem isBlank_eq_false_of_isWordChar {c : Char} (h : isWordChar c) : isBlank c = false := by
  rcases Nat.lt_or_ge c.toNat 128 with hascii | hlarge
  · rw [← Char.ofNat_toNat c] at h ⊢
    exact isBlank_eq_false_of_ascii c.toNat hascii h
  · obtain ⟨r, hr, hlo, hhi⟩ := inRanges_iff.1 ((isWordChar_iff_of_le hlarge).1 h)
    rw [isBlank_eq_false_iff]
    intro b hb
    have hfree := alphanumericRanges_not_blank r hr b hb
    rw [Bool.or_eq_true, Nat.blt_eq, Nat.blt_eq] at hfree
    omega

/-! ### Word characters and lower case -/

/-- The letters of every run lie in one range of the table, with one exception. -/
theorem lowerCaseRuns_alphanumeric : ∀ run ∈ lowerCaseRuns,
    (alphanumericRanges.any fun r => run.last.ble r.2 && r.1.ble run.first) ∨
      run = ⟨8025, 8031, 2, -8⟩ := by
  decide +kernel

theorem isWordChar_of_toLower_ascii : ∀ n < 128, isWordChar (Char.ofNat n).toLower →
    isWordChar (Char.ofNat n) := by
  decide +kernel

theorem isBlank_of_toLower_ascii : ∀ n < 128, isBlank (Char.ofNat n).toLower →
    isBlank (Char.ofNat n) := by
  decide +kernel

/-- Beyond ASCII nothing is a capital letter of ASCII. -/
theorem toLower_eq_self_of_le {c : Char} (h : 128 ≤ c.toNat) : c.toLower = c := by
  have hnot : ¬ (c.val ≥ 'A'.val ∧ c.val ≤ 'Z'.val) := by
    rintro ⟨-, hle⟩
    have hle' : c.toNat ≤ 'Z'.toNat := UInt32.le_iff_toNat_le.1 hle
    exact absurd (Nat.le_trans h hle') (by decide)
  rw [Char.toLower, dif_neg hnot]

/-- A character is a word character if it is one in lower case, as far as ASCII knows. -/
theorem isWordChar_of_toLower {c : Char} (h : isWordChar c.toLower) : isWordChar c := by
  rcases Nat.lt_or_ge c.toNat 128 with hascii | hlarge
  · rw [← Char.ofNat_toNat c] at h ⊢
    exact isWordChar_of_toLower_ascii c.toNat hascii h
  · rwa [toLower_eq_self_of_le hlarge] at h

/-- And it is a blank if it is one in lower case. -/
theorem isBlank_of_toLower {c : Char} (h : isBlank c.toLower) : isBlank c := by
  rcases Nat.lt_or_ge c.toNat 128 with hascii | hlarge
  · rw [← Char.ofNat_toNat c] at h ⊢
    exact isBlank_of_toLower_ascii c.toNat hascii h
  · rwa [toLower_eq_self_of_le hlarge] at h

/-- What a run applies to is a letter. -/
theorem CaseRun.inRanges_of_apply?_eq_some {run : CaseRun} (hrun : run ∈ lowerCaseRuns) {n : Nat}
    {d : Char} (h : run.apply? n = some d) : inRanges alphanumericRanges n := by
  unfold CaseRun.apply? at h
  split at h
  next hin =>
    simp only [Bool.and_eq_true, decide_eq_true_eq, beq_iff_eq] at hin
    obtain ⟨⟨hlo, hhi⟩, hstep⟩ := hin
    rcases lowerCaseRuns_alphanumeric run hrun with hrange | rfl
    · obtain ⟨r, hr, hbounds⟩ := List.any_eq_true.1 hrange
      rw [Bool.and_eq_true, Nat.ble_eq, Nat.ble_eq] at hbounds
      exact inRanges_iff.2 ⟨r, hr, by omega, by omega⟩
    · -- the code points between the letters of this run stand for no character
      have hcases : n = 8025 ∨ n = 8027 ∨ n = 8029 ∨ n = 8031 := by
        simp only at hlo hhi hstep
        omega
      rcases hcases with rfl | rfl | rfl | rfl <;> decide +kernel
  next => exact absurd h (by simp)

/-- A character is a word character if one of its lower-case form is. -/
theorem isWordChar_of_mem_lowerChar {c d : Char} (h : d ∈ lowerChar c) (hd : isWordChar d) :
    isWordChar c := by
  rw [lowerChar] at h
  split at h
  next =>
    rw [List.mem_singleton.1 h] at hd
    exact isWordChar_of_toLower hd
  next hlarge =>
    split at h
    next hdotted =>
      rw [hdotted]
      decide +kernel
    next =>
      obtain rfl := List.mem_singleton.1 h
      cases hrun : lowerCaseRuns.findSome? fun run => run.apply? c.toNat with
      | none => rwa [hrun, Option.getD_none] at hd
      | some d =>
        obtain ⟨run, hmem, happly⟩ := List.exists_of_findSome?_eq_some hrun
        have hrange := run.inRanges_of_apply?_eq_some hmem happly
        exact (isWordChar_iff_of_le (Nat.not_lt.1 hlarge)).2 hrange

theorem isWordChar_capitalSigma : isWordChar capitalSigma := by
  decide +kernel

/-- A text consists of word characters if its lower-case form does. -/
theorem isWordChar_of_lowerCaseFrom {before cs : List Char}
    (h : ∀ d ∈ lowerCaseFrom before cs, isWordChar d) : ∀ c ∈ cs, isWordChar c := by
  induction cs generalizing before with
  | nil => exact fun c hc => absurd hc List.not_mem_nil
  | cons c cs ih =>
    rw [lowerCaseFrom] at h
    obtain ⟨hhead, htail⟩ := List.forall_mem_append.1 h
    refine List.forall_mem_cons.2 ⟨?_, ih htail⟩
    by_cases hsigma : c = capitalSigma
    · rw [hsigma]
      exact isWordChar_capitalSigma
    · rw [if_neg hsigma] at hhead
      obtain ⟨d, hd⟩ := List.exists_mem_of_ne_nil _ (lowerChar_ne_nil c)
      exact isWordChar_of_mem_lowerChar hd (hhead d hd)

end DogRegistry.Text
