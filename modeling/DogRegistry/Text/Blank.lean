/-!
# Blank characters

The characters with the Unicode property `White_Space`, and the removal of such characters from the
two ends of a text.  Zero-width characters and the information separators of ASCII are not blank.

## Main definitions

* `isBlank c` — the property itself.
* `trimChars`, `trim` — a text without the blanks at its ends.
* `isBlankText s` — nothing is left of `s` once it is trimmed.

## Main results

* `trimChars_eq_nil_iff` — only a text of blanks trims to nothing.
-/

namespace DogRegistry.Text

/-- The closed ranges of the code points with the property `White_Space`. -/
def blankRanges : List (Nat × Nat) :=
  [(9, 13), (32, 32), (133, 133), (160, 160), (5760, 5760), (8192, 8202), (8232, 8233),
   (8239, 8239), (8287, 8287), (12288, 12288)]

/-- `inRanges table n` says `n` lies in one of the closed ranges of `table`. -/
def inRanges (table : List (Nat × Nat)) (n : Nat) : Bool :=
  table.any fun r => r.1 ≤ n && n ≤ r.2

/-- `isBlank c` says the character `c` is white space. -/
def isBlank (c : Char) : Bool :=
  inRanges blankRanges c.toNat

/-- A list of characters without the blanks at its end. -/
def trimCharsEnd (cs : List Char) : List Char :=
  (cs.reverse.dropWhile isBlank).reverse

/-- A list of characters without the blanks at its two ends. -/
def trimChars (cs : List Char) : List Char :=
  trimCharsEnd (cs.dropWhile isBlank)

/-- A text without the blanks at its two ends. -/
def trim (s : String) : String :=
  String.ofList (trimChars s.toList)

/-- `isBlankText s` says every character of `s` is blank. -/
def isBlankText (s : String) : Bool :=
  s.toList.all isBlank

@[simp] theorem toList_trim (s : String) : (trim s).toList = trimChars s.toList := by
  simp [trim]

@[simp] theorem trimCharsEnd_nil : trimCharsEnd [] = [] := rfl

theorem dropWhile_isBlank_eq_nil_iff (cs : List Char) :
    cs.dropWhile isBlank = [] ↔ ∀ c ∈ cs, isBlank c := by
  induction cs with
  | nil => simp
  | cons c cs ih => by_cases h : isBlank c <;> simp [h, ih]

theorem trimCharsEnd_eq_nil_iff (cs : List Char) :
    trimCharsEnd cs = [] ↔ ∀ c ∈ cs, isBlank c := by
  rw [trimCharsEnd, List.reverse_eq_nil_iff, dropWhile_isBlank_eq_nil_iff]
  simp only [List.mem_reverse]

theorem trimChars_eq_nil_iff (cs : List Char) :
    trimChars cs = [] ↔ ∀ c ∈ cs, isBlank c := by
  rw [trimChars, trimCharsEnd_eq_nil_iff]
  induction cs with
  | nil => simp
  | cons c cs ih => by_cases h : isBlank c <;> simp [h, ih]

end DogRegistry.Text
