import DogRegistry.Json.Value

/-!
# JSON objects of strings

The reader for JSON texts that hold one object whose members are all strings.  It accepts what the
JSON grammar allows, blanks between tokens and every escape included, and nothing else.

## Main definitions

* `Json.readString` — reads a string behind its opening quote.
* `Json.readMembers` — reads the members of an object behind its opening brace.
* `Json.parseStringMap` — reads a text; of members with the same name the last one counts, and the
  members come out in the order of their names.

## Main results

* `Json.readString_length_lt`, `Json.readMember?_length_lt` — reading makes the remaining text
  shorter.
-/

namespace DogRegistry

namespace Json

/-! ### Strings -/

/-- `isJsonBlank c` says `c` may stand between two tokens. -/
def isJsonBlank (c : Char) : Bool :=
  c == ' ' || c == '\t' || c == '\n' || c == '\r'

/-- The characters after the blanks at the front. -/
def skipBlanks (cs : List Char) : List Char :=
  cs.dropWhile isJsonBlank

/-- The value of a hexadecimal digit. -/
def hexValue? (c : Char) : Option Nat :=
  if '0' ≤ c ∧ c ≤ '9' then some (c.toNat - '0'.toNat)
  else if 'a' ≤ c ∧ c ≤ 'f' then some (c.toNat - 'a'.toNat + 10)
  else if 'A' ≤ c ∧ c ≤ 'F' then some (c.toNat - 'A'.toNat + 10)
  else none

/-- The value of four hexadecimal digits, and the characters after them. -/
def hexUnit? : List Char → Option (Nat × List Char)
  | a :: b :: c :: d :: rest => do
    let a ← hexValue? a
    let b ← hexValue? b
    let c ← hexValue? c
    let d ← hexValue? d
    return (((a * 16 + b) * 16 + c) * 16 + d, rest)
  | _ => none

/-- The second half of a surrogate pair whose first half is `high`. -/
def lowSurrogate? (high : Nat) : List Char → Option (Char × List Char)
  | '\\' :: 'u' :: rest => do
    let (low, rest) ← hexUnit? rest
    if 0xDC00 ≤ low ∧ low < 0xE000 then
      return (Char.ofNat (0x10000 + (high - 0xD800) * 0x400 + (low - 0xDC00)), rest)
    else
      none
  | _ => none

/-- The character that an escape stands for, behind its backslash.  Characters outside the basic
plane are written as surrogate pairs, and a half of a pair alone stands for nothing. -/
def escape? : List Char → Option (Char × List Char)
  | '"' :: rest => some ('"', rest)
  | '\\' :: rest => some ('\\', rest)
  | '/' :: rest => some ('/', rest)
  | 'b' :: rest => some ('\x08', rest)
  | 'f' :: rest => some ('\x0c', rest)
  | 'n' :: rest => some ('\n', rest)
  | 'r' :: rest => some ('\r', rest)
  | 't' :: rest => some ('\t', rest)
  | 'u' :: rest => do
    let (unit, rest) ← hexUnit? rest
    if unit < 0xD800 ∨ 0xE000 ≤ unit then return (Char.ofNat unit, rest)
    else if unit < 0xDC00 then lowSurrogate? unit rest
    else none
  | _ => none

theorem hexUnit?_length_lt {cs rest : List Char} {n : Nat} (h : hexUnit? cs = some (n, rest)) :
    rest.length < cs.length := by
  unfold hexUnit? at h
  split at h
  · simp only [Option.bind_eq_bind, Option.bind_eq_some_iff, Option.pure_def,
      Option.some.injEq, Prod.mk.injEq] at h
    obtain ⟨-, -, -, -, -, -, -, -, -, rfl⟩ := h
    simp only [List.length_cons]
    omega
  · simp at h

theorem lowSurrogate?_length_lt {cs rest : List Char} {high : Nat} {c : Char}
    (h : lowSurrogate? high cs = some (c, rest)) : rest.length < cs.length := by
  unfold lowSurrogate? at h
  split at h
  · simp only [Option.bind_eq_bind, Option.bind_eq_some_iff] at h
    obtain ⟨⟨low, rest'⟩, h₁, h₂⟩ := h
    have h₃ := hexUnit?_length_lt h₁
    split at h₂
    · simp only [Option.pure_def, Option.some.injEq, Prod.mk.injEq] at h₂
      obtain ⟨-, rfl⟩ := h₂
      simp only [List.length_cons]
      omega
    · simp at h₂
  · simp at h

theorem escape?_length_lt {cs rest : List Char} {c : Char} (h : escape? cs = some (c, rest)) :
    rest.length < cs.length := by
  unfold escape? at h
  split at h
  case h_9 rest' =>
    simp only [Option.bind_eq_bind, Option.bind_eq_some_iff] at h
    obtain ⟨⟨unit, rest''⟩, h₁, h₂⟩ := h
    have h₃ : rest''.length < rest'.length := hexUnit?_length_lt h₁
    split at h₂
    · simp only [Option.pure_def, Option.some.injEq, Prod.mk.injEq] at h₂
      obtain ⟨-, rfl⟩ := h₂
      simp only [List.length_cons]
      omega
    · split at h₂
      · have h₄ : rest.length < rest''.length := lowSurrogate?_length_lt h₂
        simp only [List.length_cons]
        omega
      · simp at h₂
  case h_10 => simp at h
  all_goals
    simp only [Option.some.injEq, Prod.mk.injEq] at h
    obtain ⟨-, rfl⟩ := h
    simp

/-- Reads a string behind its opening quote: its content, and the characters after its closing
quote.  Control characters have to be escaped. -/
def readString : List Char → Option (List Char × List Char)
  | [] => none
  | c :: cs =>
    if c = '"' then some ([], cs)
    else if c = '\\' then
      match _escaped : escape? cs with
      | none => none
      | some (d, rest) => (readString rest).map fun r => (d :: r.1, r.2)
    else if c.toNat < 32 then none
    else (readString cs).map fun r => (c :: r.1, r.2)
termination_by cs => cs.length
decreasing_by
  · have := escape?_length_lt _escaped
    simp only [List.length_cons]
    omega
  · simp

theorem readString_length_lt {cs rest content : List Char}
    (h : readString cs = some (content, rest)) : rest.length < cs.length := by
  fun_induction readString cs generalizing content with
  | case1 => simp at h
  | case2 cs =>
    simp only [Option.some.injEq, Prod.mk.injEq] at h
    obtain ⟨-, rfl⟩ := h
    simp
  | case3 => simp at h
  | case4 cs d rest' h₁ _ ih =>
    simp only [Option.map_eq_some_iff] at h
    obtain ⟨⟨content', rest''⟩, h₂, h₃⟩ := h
    simp only [Prod.mk.injEq] at h₃
    obtain ⟨-, rfl⟩ := h₃
    have := ih h₂
    have := escape?_length_lt h₁
    simp only [List.length_cons]
    omega
  | case5 => simp at h
  | case6 c cs _ _ _ ih =>
    simp only [Option.map_eq_some_iff] at h
    obtain ⟨⟨content', rest''⟩, h₂, h₃⟩ := h
    simp only [Prod.mk.injEq] at h₃
    obtain ⟨-, rfl⟩ := h₃
    have := ih h₂
    simp only [List.length_cons]
    omega

/-! ### Objects -/

/-- The characters after the given one, blanks in front of it skipped. -/
def expect? (c : Char) (cs : List Char) : Option (List Char) :=
  match skipBlanks cs with
  | [] => none
  | d :: rest => if d = c then some rest else none

theorem expect?_length_lt {c : Char} {cs rest : List Char} (h : expect? c cs = some rest) :
    rest.length < cs.length := by
  unfold expect? at h
  split at h
  · simp at h
  · next d rest' h₁ =>
    have h₂ := (List.dropWhile_sublist isJsonBlank (l := cs)).length_le
    rw [skipBlanks] at h₁
    rw [h₁, List.length_cons] at h₂
    split at h
    · obtain rfl : rest' = rest := by simpa using h
      omega
    · simp at h

/-- Reads a member of an object: a name, a colon and a string. -/
def readMember? (cs : List Char) : Option ((List Char × List Char) × List Char) := do
  let cs ← expect? '"' cs
  let (name, cs) ← readString cs
  let cs ← expect? ':' cs
  let cs ← expect? '"' cs
  let (value, cs) ← readString cs
  return ((name, value), cs)

theorem readMember?_length_lt {cs rest : List Char} {m : List Char × List Char}
    (h : readMember? cs = some (m, rest)) : rest.length < cs.length := by
  simp only [readMember?, Option.bind_eq_bind, Option.bind_eq_some_iff, Option.pure_def,
    Option.some.injEq, Prod.mk.injEq] at h
  obtain ⟨cs₁, h₁, ⟨name, cs₂⟩, h₂, cs₃, h₃, cs₄, h₄, ⟨value, cs₅⟩, h₅, -, rfl⟩ := h
  have := expect?_length_lt h₁
  have := readString_length_lt h₂
  have := expect?_length_lt h₃
  have := expect?_length_lt h₄
  have := readString_length_lt h₅
  simp only at *
  omega

/-- Reads one or more members of an object and its closing brace. -/
def readMembers (cs : List Char) : Option (List (List Char × List Char) × List Char) :=
  match _first : readMember? cs with
  | none => none
  | some (m, rest) =>
    match _comma : expect? ',' rest with
    | some rest => (readMembers rest).map fun r => (m :: r.1, r.2)
    | none => (expect? '\x7d' rest).map fun rest => ([m], rest)
termination_by cs.length
decreasing_by
  have := readMember?_length_lt _first
  have := expect?_length_lt _comma
  omega

/-- Reads an object of strings behind its opening brace. -/
def readObject (cs : List Char) : Option (List (List Char × List Char) × List Char) :=
  match expect? '\x7d' cs with
  | some rest => some ([], rest)
  | none => readMembers cs

/-- Sets the value of a name in a list that is sorted by names. -/
def setMember (name value : String) : List (String × String) → List (String × String)
  | [] => [(name, value)]
  | (n, v) :: ms =>
    if name < n then (name, value) :: (n, v) :: ms
    else if name = n then (name, value) :: ms
    else (n, v) :: setMember name value ms

/-- Reads a text that holds one object of strings and nothing else but blanks. -/
def parseStringMap (s : String) : Option (List (String × String)) := do
  let cs ← expect? '\x7b' s.toList
  let (members, rest) ← readObject cs
  if skipBlanks rest = [] then
    return members.foldl
      (fun map m => setMember (String.ofList m.1) (String.ofList m.2) map) []
  else
    none

end Json

end DogRegistry
