import DogRegistry.Proofs.Text.Trim
import DogRegistry.RowId
import Mathlib.Data.Nat.Digits.Defs

/-!
# Writing and reading row identifiers

A text is read as a row identifier exactly if it is a decimal numeral between blanks and the number
fits into 64 bits.

## Main definitions

* `IsNumeral cs n` — the characters `cs` are a decimal numeral for `n`.
* `Denotes s n` — the text `s` is such a numeral with blanks around it.

## Main results

* `isNumeral_iff` — the value that is read off digits is the one they stand for.
* `RowId.parse?_eq_some_iff`, `RowId.parse?_eq_none_iff` — which texts are read.
* `RowId.parse?_toText` — reading what was written gives the identifier back.
* `RowId.toNat_of_next?` — the number of the identifier that follows.
* `RowId.parse_numerals` — numerals up to the largest number are read, and nothing else is.
-/

namespace DogRegistry

open Text

/-! ### Numerals -/

/-- `IsNumeral cs n` says the characters `cs` are a decimal numeral for `n`. -/
inductive IsNumeral : List Char → Nat → Prop
  /-- There is at least one ASCII digit.  The first one counts most, and it may be zero. -/
  | intro {ds : List Nat} (hne : ds ≠ []) (hlt : ∀ d ∈ ds, d < 10) :
    IsNumeral (ds.map Nat.digitChar) (Nat.ofDigits 10 ds.reverse)

/-- `Denotes s n` says the text `s` is a numeral for `n` with blanks around it. -/
def Denotes (s : String) (n : Nat) : Prop :=
  ∃ before digits after, s.toList = before ++ (digits ++ after) ∧ (∀ b ∈ before, isBlank b) ∧
    (∀ b ∈ after, isBlank b) ∧ IsNumeral digits n

theorem ofDigitChars_map_digitChar {ds : List Nat} (h : ∀ d ∈ ds, d < 10) :
    Nat.ofDigitChars 10 (ds.map Nat.digitChar) 0 = Nat.ofDigits 10 ds.reverse := by
  induction ds using List.reverseRecOn with
  | nil => rfl
  | append_singleton ds d ih =>
    obtain ⟨hds, hd⟩ := List.forall_mem_append.1 h
    rw [List.map_append, List.map_singleton, Nat.ofDigitChars_append, ih hds,
      Nat.ofDigitChars_cons_digitChar_of_lt_ten (hd d (List.mem_singleton_self d)),
      Nat.ofDigitChars_nil, List.reverse_append, List.reverse_singleton, List.singleton_append,
      Nat.ofDigits_cons, Nat.add_comm]

/-- Every ASCII digit has a value. -/
theorem exists_digitChar_eq {c : Char} (h : c.isDigit) : ∃ d < 10, Nat.digitChar d = c := by
  have hrange : 48 ≤ c.toNat ∧ c.toNat ≤ 57 := by
    simpa [Char.isDigit, UInt32.le_iff_toNat_le] using h
  refine ⟨c.toNat - 48, by omega, Char.toNat_inj.1 ?_⟩
  rw [Nat.toNat_digitChar_of_lt_ten (by omega)]
  omega

theorem exists_map_digitChar_eq {cs : List Char} (h : ∀ c ∈ cs, c.isDigit) :
    ∃ ds : List Nat, (∀ d ∈ ds, d < 10) ∧ ds.map Nat.digitChar = cs := by
  induction cs with
  | nil => exact ⟨[], fun _ hd => absurd hd List.not_mem_nil, rfl⟩
  | cons c cs ih =>
    obtain ⟨hc, hcs⟩ := List.forall_mem_cons.1 h
    obtain ⟨d, hd, rfl⟩ := exists_digitChar_eq hc
    obtain ⟨ds, hds, rfl⟩ := ih hcs
    exact ⟨d :: ds, List.forall_mem_cons.2 ⟨hd, hds⟩, rfl⟩

/-- The value that is read off digits is the one they stand for. -/
theorem isNumeral_iff {cs : List Char} {n : Nat} :
    IsNumeral cs n ↔ (cs ≠ [] ∧ ∀ c ∈ cs, c.isDigit) ∧ Nat.ofDigitChars 10 cs 0 = n := by
  constructor
  · rintro ⟨hne, hlt⟩
    refine ⟨⟨fun h => hne (List.map_eq_nil_iff.1 h), ?_⟩, ofDigitChars_map_digitChar hlt⟩
    intro c hc
    obtain ⟨d, hd, rfl⟩ := List.mem_map.1 hc
    rw [Nat.isDigit_digitChar, decide_eq_true (hlt d hd)]
  · rintro ⟨⟨hne, hdigits⟩, rfl⟩
    obtain ⟨ds, hlt, rfl⟩ := exists_map_digitChar_eq hdigits
    rw [ofDigitChars_map_digitChar hlt]
    exact .intro (fun h => hne (List.map_eq_nil_iff.2 h)) hlt

namespace IsNumeral

variable {cs : List Char} {n : Nat}

theorem isDigit_of_mem (h : IsNumeral cs n) {c : Char} (hc : c ∈ cs) : c.isDigit :=
  (isNumeral_iff.1 h).1.2 c hc

/-- A numeral neither begins nor ends with a blank. -/
theorem trimChars_eq (h : IsNumeral cs n) : trimChars cs = cs :=
  trimChars_eq_self
    (fun _ hc => isBlank_eq_false_of_isDigit (h.isDigit_of_mem (List.mem_of_head? hc)))
    (fun _ hc => isBlank_eq_false_of_isDigit (h.isDigit_of_mem (List.mem_of_getLast? hc)))

/-- Zeros in front make no difference. -/
theorem replicate_zero_append (h : IsNumeral cs n) (zeros : Nat) :
    IsNumeral (List.replicate zeros '0' ++ cs) n := by
  obtain ⟨⟨hne, hdigits⟩, hvalue⟩ := isNumeral_iff.1 h
  refine isNumeral_iff.2 ⟨⟨List.append_ne_nil_of_right_ne_nil _ hne, ?_⟩, ?_⟩
  · intro c hc
    rcases List.mem_append.1 hc with hc | hc
    · rw [List.eq_of_mem_replicate hc]
      rfl
    · exact hdigits c hc
  · rw [Nat.ofDigitChars_append, Nat.ofDigitChars_replicate_zero, Nat.mul_zero, hvalue]

/-- A numeral is a text with no blanks around it. -/
theorem denotes {s : String} (h : IsNumeral s.toList n) : Denotes s n :=
  ⟨[], s.toList, [], by simp, by simp, by simp, h⟩

end IsNumeral

/-- A text denotes what is left of it once it is trimmed. -/
theorem denotes_iff {s : String} {n : Nat} : Denotes s n ↔ IsNumeral (trimChars s.toList) n := by
  constructor
  · rintro ⟨before, digits, after, hs, hbefore, hafter, h⟩
    rwa [hs, trimChars_between_blanks hbefore hafter, h.trimChars_eq]
  · intro h
    obtain ⟨after, hafter, hblank⟩ := exists_trimCharsEnd_append (s.toList.dropWhile isBlank)
    refine ⟨s.toList.takeWhile isBlank, trimChars s.toList, after, ?_, ?_, hblank, h⟩
    · rw [trimChars, ← hafter, List.takeWhile_append_dropWhile]
    · exact fun b hb => List.mem_takeWhile_imp hb

/-! ### Row identifiers -/

namespace RowId

theorem toList_toText (id : RowId) : id.toText.toList = Nat.toDigits 10 id.toNat :=
  Nat.toList_repr

/-- The written form of an identifier is a numeral for its number. -/
theorem isNumeral_toText (id : RowId) : IsNumeral id.toText.toList id.toNat := by
  rw [toList_toText]
  refine isNumeral_iff.2 ⟨⟨Nat.toDigits_ne_nil, fun c hc => ?_⟩, Nat.ofDigitChars_ten_toDigits⟩
  exact Nat.isDigit_of_mem_toDigits (by decide) (by decide) hc

theorem isDigit_of_mem_toText {id : RowId} {c : Char} (h : c ∈ id.toText.toList) : c.isDigit :=
  id.isNumeral_toText.isDigit_of_mem h

theorem ofNat?_eq_some_iff {n : Nat} {id : RowId} : ofNat? n = some id ↔ id.toNat = n := by
  constructor
  · intro h
    rw [ofNat?] at h
    split at h
    next => exact congrArg toNat (Option.some_inj.1 h.symm)
    next => exact absurd h (by simp)
  · rintro rfl
    exact ofNat?_toNat id

theorem toNat_of_next? {id id' : RowId} (h : id.next? = some id') : id'.toNat = id.toNat + 1 :=
  ofNat?_eq_some_iff.1 h

/-- The identifier that is read is the one whose number the text denotes. -/
theorem parse?_eq_some_iff {s : String} {id : RowId} :
    parse? s = some id ↔ Denotes s id.toNat := by
  rw [denotes_iff, isNumeral_iff, parse?, ofDigits?]
  split
  next h =>
    rw [List.all_eq_true] at h
    rw [ofNat?_eq_some_iff, and_iff_right h, eq_comm]
  next h =>
    rw [List.all_eq_true] at h
    exact iff_of_false (by simp) fun hnumeral => h hnumeral.1

/-- No identifier is read if the text denotes no number, or one that is too large. -/
theorem parse?_eq_none_iff {s : String} :
    parse? s = none ↔ ¬ ∃ n, Denotes s n ∧ n < UInt64.size := by
  constructor
  · rintro h ⟨n, hn, hlt⟩
    have hread : parse? s = some ⟨n, hlt⟩ := parse?_eq_some_iff.2 hn
    exact absurd (h.symm.trans hread) (by simp)
  · intro h
    refine Option.eq_none_iff_forall_ne_some.2 fun id hid => h ⟨id.toNat, ?_, id.toNat_lt⟩
    exact parse?_eq_some_iff.1 hid

/-- An identifier that is written and read again is the same. -/
theorem parse?_toText (id : RowId) : parse? id.toText = some id :=
  parse?_eq_some_iff.2 id.isNumeral_toText.denotes

theorem parse_eq_error_iff {s : String} {e : InvalidRowId} :
    parse s = .error e ↔ e = ⟨s⟩ ∧ parse? s = none := by
  unfold parse parse?
  cases ofDigits? (trimChars s.toList) <;> simp [eq_comm]

/-- The number that is read is the one that the text denotes, if it is not too large. -/
theorem map_toNat_parse_eq_ok_iff {s : String} {n : Nat} :
    (parse s).map toNat = .ok n ↔ Denotes s n ∧ n < UInt64.size := by
  constructor
  · intro h
    cases hparse : parse s with
    | error e =>
      rw [hparse] at h
      exact absurd h (by simp [Except.map])
    | ok id =>
      rw [hparse] at h
      obtain rfl : id.toNat = n := Except.ok.inj h
      exact ⟨parse?_eq_some_iff.1 ((parse_eq_ok_iff s id).1 hparse), id.toNat_lt⟩
  · rintro ⟨hn, hlt⟩
    have hread : parse s = .ok ⟨n, hlt⟩ := (parse_eq_ok_iff s _).2 (parse?_eq_some_iff.2 hn)
    rw [hread]
    rfl

theorem parse_toText (id : RowId) : parse id.toText = .ok id :=
  (parse_eq_ok_iff _ id).2 id.parse?_toText

/-- There is a next identifier up to the largest one, and it is read as the next number. -/
theorem exists_next?_iff {id : RowId} :
    (∃ next, id.next? = some next ∧ (parse next.toText).map toNat = .ok (id.toNat + 1)) ↔
      id ≠ last := by
  rw [Ne, ← next?_eq_none_iff, ← Ne, Option.ne_none_iff_exists']
  refine exists_congr fun next => and_iff_left_of_imp fun h => ?_
  rw [parse_toText, ← toNat_of_next? h]
  rfl

/-- The texts that are read are the numerals up to the largest number, with blanks around them and
zeros in front as they may be; an error carries the text as it was given.  Identifiers are read as
they are written, so that the next one is read as the next number until there is none. -/
theorem parse_numerals (s : String) (n : Nat) (id : RowId) :
    ((parse s).map toNat = .ok n ↔ Denotes s n ∧ n ≤ 2 ^ 64 - 1) ∧
      (∀ e, parse s = .error e ↔ e = ⟨s⟩ ∧ ¬ ∃ n, Denotes s n ∧ n ≤ 2 ^ 64 - 1) ∧
      (∀ zeros, parse (String.ofList (List.replicate zeros '0') ++ id.toText) = .ok id) ∧
      (id.toNat < 2 ^ 64 - 1 ↔
        ∃ next, id.next? = some next ∧ (parse next.toText).map toNat = .ok (id.toNat + 1)) ∧
      (id.next? = none ↔ id.toNat = 2 ^ 64 - 1) := by
  have hfits (m : Nat) : m ≤ 2 ^ 64 - 1 ↔ m < UInt64.size := Nat.lt_succ_iff.symm
  have hlast : id = last ↔ id.toNat = 2 ^ 64 - 1 := by
    cases id
    rw [last, mk.injEq]
    rfl
  simp only [hfits]
  refine ⟨map_toNat_parse_eq_ok_iff, fun e => ?_, fun zeros => ?_, ?_, ?_⟩
  · rw [parse_eq_error_iff, parse?_eq_none_iff]
  · refine (parse_eq_ok_iff _ id).2 (parse?_eq_some_iff.2 (IsNumeral.denotes ?_))
    rw [String.toList_append, String.toList_ofList]
    exact id.isNumeral_toText.replicate_zero_append zeros
  · rw [exists_next?_iff, Ne, hlast]
    have hle : id.toNat ≤ 2 ^ 64 - 1 := (hfits _).2 id.toNat_lt
    exact ⟨fun h => Nat.ne_of_lt h, fun h => Nat.lt_of_le_of_ne hle h⟩
  · rw [next?_eq_none_iff, hlast]

/-- Blanks of any kind are passed over, and zeros in front. -/
example : (parse "\u2003007\n").map toNat = .ok 7 := by decide

end RowId

end DogRegistry
