import DogRegistry.Text.Blank

/-!
# Row identifiers

The number a stored row is known by: a natural number of at most 64 bits.  Its written form is
decimal.

## Main definitions

* `RowId` — a row identifier.
* `RowId.next?` — the identifier that follows, if one is left.
* `RowId.toText`, `RowId.parse` — the written form and its reader.

## Main results

* `RowId.next?_eq_none_iff` — only the largest identifier has no successor.
-/

namespace DogRegistry

open Text

/-- A row identifier. -/
structure RowId where
  /-- The number. -/
  toNat : Nat
  /-- Every identifier fits into 64 bits. -/
  toNat_lt : toNat < UInt64.size
  deriving DecidableEq, Repr

/-- A text that is not a row identifier. -/
structure InvalidRowId where
  /-- The text as it was given, blanks included. -/
  input : String
  deriving DecidableEq, Repr

/-- The wording of the error. -/
def InvalidRowId.message (e : InvalidRowId) : String :=
  s!"invalid row id: '{e.input}'"

namespace RowId

/-- The identifier with number `n`, if `n` is not too large. -/
def ofNat? (n : Nat) : Option RowId :=
  if h : n < UInt64.size then some ⟨n, h⟩ else none

/-- The identifier of the first row of an empty table. -/
def first : RowId := ⟨1, by decide⟩

/-- The largest identifier. -/
def last : RowId := ⟨UInt64.size - 1, by decide⟩

/-- The identifier that follows, or `none` after the largest one. -/
def next? (id : RowId) : Option RowId :=
  ofNat? (id.toNat + 1)

/-- The decimal digits of the identifier. -/
def toText (id : RowId) : String :=
  toString id.toNat

/-- The identifier written with the given characters: one or more ASCII digits, leading zeros
allowed, whose decimal value is not too large. -/
def ofDigits? (digits : List Char) : Option RowId :=
  if digits ≠ [] ∧ digits.all Char.isDigit then ofNat? (Nat.ofDigitChars 10 digits 0) else none

/-- Reads a row identifier, blanks around the digits allowed. -/
def parse (s : String) : Except InvalidRowId RowId :=
  match ofDigits? (trimChars s.toList) with
  | some id => .ok id
  | none => .error ⟨s⟩

/-- The identifier a text stands for, if it stands for one. -/
def parse? (s : String) : Option RowId :=
  ofDigits? (trimChars s.toList)

theorem parse_eq_ok_iff (s : String) (id : RowId) : parse s = .ok id ↔ parse? s = some id := by
  unfold parse parse?
  cases ofDigits? (trimChars s.toList) <;> simp

theorem ofNat?_toNat (id : RowId) : ofNat? id.toNat = some id :=
  dif_pos id.toNat_lt

theorem ofNat?_eq_none_iff (n : Nat) : ofNat? n = none ↔ UInt64.size ≤ n := by
  simp [ofNat?]

theorem next?_eq_none_iff (id : RowId) : id.next? = none ↔ id = last := by
  cases id with
  | mk n h =>
    simp only [next?, ofNat?_eq_none_iff, last, mk.injEq]
    omega

end RowId

end DogRegistry
