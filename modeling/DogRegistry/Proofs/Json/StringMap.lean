import DogRegistry.Json.StringMap
import DogRegistry.Proofs.Text.Split
import Mathlib.Data.List.Induction
import Mathlib.Data.String.Basic

/-!
# Writing and reading objects of strings

An object of strings in its indented form is read as the members it was written from.  Every
character of a string survives: the quote, the backslash and the control characters are escaped, and
all others stand for themselves.

## Main results

* `Json.readString_flatMap_escapeChar` — a string is read up to its closing quote and not further.
* `Json.readMembers_membersChars` — the members are read one by one up to the closing brace.
* `Json.foldl_setMember` — members whose names ascend keep their order.
* `Json.parseStringMap_pretty` — reading an object that was written gives its members back.
-/

namespace DogRegistry

namespace Json

/-! ### Strings -/

section Strings

variable {c : Char} {cs rest : List Char}

theorem readString_quote (rest : List Char) : readString ('"' :: rest) = some ([], rest) := by
  rw [readString, if_pos rfl]

/-- An escape is read as the character it stands for. -/
theorem readString_escape (h : escape? cs = some (c, rest)) :
    readString ('\\' :: cs) = (readString rest).map fun r => (c :: r.1, r.2) := by
  rw [readString, if_neg (by decide), if_pos rfl]
  split
  next hnone =>
    rw [h] at hnone
    exact absurd hnone (by simp)
  next d rest' hsome =>
    rw [h, Option.some_inj, Prod.mk.injEq] at hsome
    obtain ⟨rfl, rfl⟩ := hsome
    rfl

/-- A character that needs no escape is read as itself. -/
theorem readString_plain (hquote : c ≠ '"') (hbackslash : c ≠ '\\') (hcontrol : ¬ c.toNat < 32)
    (rest : List Char) :
    readString (c :: rest) = (readString rest).map fun r => (c :: r.1, r.2) := by
  rw [readString, if_neg hquote, if_neg hbackslash, if_neg hcontrol]

theorem hexValue?_digitChar {n : Nat} (h : n < 16) : hexValue? n.digitChar = some n := by
  have hall : ∀ m < 16, hexValue? m.digitChar = some m := by decide
  exact hall n h

/-- A control character is written as the four digits of its code point. -/
theorem escape?_control (h : c.toNat < 32) (rest : List Char) :
    escape? ('u' :: '0' :: '0' :: (c.toNat / 16).digitChar :: (c.toNat % 16).digitChar :: rest) =
      some (c, rest) := by
  have hhigh : hexValue? (c.toNat / 16).digitChar = some (c.toNat / 16) :=
    hexValue?_digitChar (by omega)
  have hlow : hexValue? (c.toNat % 16).digitChar = some (c.toNat % 16) :=
    hexValue?_digitChar (by omega)
  have hzero : hexValue? '0' = some 0 := by decide
  have hunit : hexUnit?
      ('0' :: '0' :: (c.toNat / 16).digitChar :: (c.toNat % 16).digitChar :: rest) =
        some (c.toNat, rest) := by
    simp only [hexUnit?, hzero, hhigh, hlow, Option.bind_eq_bind, Option.bind_some,
      Option.pure_def, Option.some_inj, Prod.mk.injEq, and_true]
    omega
  have hplane : c.toNat < 0xD800 ∨ 0xE000 ≤ c.toNat := by omega
  simp only [escape?, hunit, Option.bind_eq_bind, Option.bind_some, if_pos hplane,
    Option.pure_def, Char.ofNat_toNat]

/-- The form of a character inside a string is read as that character. -/
theorem readString_escapeChar (c : Char) (rest : List Char) :
    readString (escapeChar c ++ rest) = (readString rest).map fun r => (c :: r.1, r.2) := by
  unfold escapeChar
  split_ifs with h₁ h₂ h₃ h₄ h₅ h₆ h₇ h₈
  -- first the characters that have a short form
  · subst h₁
    exact readString_escape rfl
  · subst h₂
    exact readString_escape rfl
  · subst h₃
    exact readString_escape rfl
  · subst h₄
    exact readString_escape rfl
  · subst h₅
    exact readString_escape rfl
  · subst h₆
    exact readString_escape rfl
  · subst h₇
    exact readString_escape rfl
  · exact readString_escape (escape?_control h₈ rest)
  · exact readString_plain h₁ h₂ h₈ rest

/-- A string is read up to its closing quote. -/
theorem readString_flatMap_escapeChar (cs rest : List Char) :
    readString (cs.flatMap escapeChar ++ '"' :: rest) = some (cs, rest) := by
  induction cs with
  | nil => exact readString_quote rest
  | cons c cs ih =>
    rw [List.flatMap_cons, List.append_assoc, readString_escapeChar, ih]
    rfl

end Strings

/-! ### Members -/

/-- The characters of a member of an object: its name and its value. -/
def memberChars (m : String × String) : List Char :=
  quoteChars m.1.toList ++ [':', ' '] ++ quoteChars m.2.toList

/-- The characters of the members of an object, each on a line of its own. -/
def membersChars (ms : List (String × String)) : List Char :=
  '\n' :: [',', '\n'].intercalate (ms.map fun m => [' ', ' '] ++ memberChars m)

section Members

theorem skipBlanks_append {d : Char} {blanks : List Char} (hblanks : blanks.all isJsonBlank)
    (hd : isJsonBlank d = false) (rest : List Char) :
    skipBlanks (blanks ++ d :: rest) = d :: rest := by
  rw [skipBlanks, List.dropWhile_append_of_pos fun b hb => List.all_eq_true.1 hblanks b hb,
    List.dropWhile_cons, hd, if_neg Bool.false_ne_true]

/-- The token that is there is found behind the blanks in front of it. -/
theorem expect?_append {d : Char} {blanks : List Char} (hblanks : blanks.all isJsonBlank)
    (hd : isJsonBlank d = false) (rest : List Char) :
    expect? d (blanks ++ d :: rest) = some rest := by
  rw [expect?, skipBlanks_append hblanks hd]
  exact if_pos rfl

/-- And no other token is. -/
theorem expect?_append_of_ne {c d : Char} {blanks : List Char} (hblanks : blanks.all isJsonBlank)
    (hd : isJsonBlank d = false) (hne : d ≠ c) (rest : List Char) :
    expect? c (blanks ++ d :: rest) = none := by
  rw [expect?, skipBlanks_append hblanks hd]
  exact if_neg hne

/-- The opening quote of a string is found. -/
theorem expect?_quoteChars {blanks : List Char} (hblanks : blanks.all isJsonBlank)
    (cs rest : List Char) :
    expect? '"' (blanks ++ (quoteChars cs ++ rest)) =
      some (cs.flatMap escapeChar ++ '"' :: rest) := by
  rw [quoteChars, List.cons_append, List.append_assoc, List.singleton_append]
  exact expect?_append hblanks (by decide) _

/-- A member is read behind the blanks in front of it. -/
theorem readMember?_memberChars {blanks : List Char} (hblanks : blanks.all isJsonBlank)
    (m : String × String) (rest : List Char) :
    readMember? (blanks ++ (memberChars m ++ rest)) =
      some ((m.1.toList, m.2.toList), rest) := by
  have hnone : ([] : List Char).all isJsonBlank := rfl
  have hblank : [' '].all isJsonBlank := by decide
  have hname := expect?_quoteChars hblanks m.1.toList
    ([':'] ++ ([' '] ++ (quoteChars m.2.toList ++ rest)))
  have hcolon : expect? ':' ([':'] ++ ([' '] ++ (quoteChars m.2.toList ++ rest))) =
      some ([' '] ++ (quoteChars m.2.toList ++ rest)) :=
    expect?_append hnone (by decide) _
  have hvalue := expect?_quoteChars hblank m.2.toList rest
  have hcut : memberChars m ++ rest =
      quoteChars m.1.toList ++ ([':'] ++ ([' '] ++ (quoteChars m.2.toList ++ rest))) := by
    rw [memberChars, List.append_assoc, List.append_assoc]
    rfl
  rw [hcut, readMember?, hname]
  simp only [Option.bind_eq_bind, Option.bind_some, readString_flatMap_escapeChar, hcolon, hvalue,
    Option.pure_def]

/-- Behind a member there is a comma and further members, or the closing brace. -/
theorem readMembers_of_readMember? {cs rest : List Char} {m : List Char × List Char}
    (h : readMember? cs = some (m, rest)) :
    readMembers cs =
      match expect? ',' rest with
      | some rest => (readMembers rest).map fun r => (m :: r.1, r.2)
      | none => (expect? '\x7d' rest).map fun rest => ([m], rest) := by
  rw [readMembers]
  split
  next hnone =>
    rw [h] at hnone
    exact absurd hnone (by simp)
  next m' rest' hsome =>
    rw [h, Option.some_inj, Prod.mk.injEq] at hsome
    obtain ⟨rfl, rfl⟩ := hsome
    split
    next rest'' hcomma => rw [hcomma]
    next hnone => rw [hnone]

/-- Members on lines of their own are read up to the closing brace. -/
theorem readMembers_membersChars {ms : List (String × String)} (hne : ms ≠ [])
    (rest : List Char) :
    readMembers (membersChars ms ++ '\n' :: '\x7d' :: rest) =
      some (ms.map fun m => (m.1.toList, m.2.toList), rest) := by
  induction ms with
  | nil => exact absurd rfl hne
  | cons m ms ih =>
    have hread : ∀ rest' : List Char,
        readMember? ('\n' :: ([' ', ' '] ++ memberChars m ++ rest')) =
          some ((m.1.toList, m.2.toList), rest') := by
      intro rest'
      have hindent : ['\n', ' ', ' '].all isJsonBlank := by decide
      rw [List.append_assoc]
      exact readMember?_memberChars hindent m rest'
    cases ms with
    | nil =>
      have hlineFeed : ['\n'].all isJsonBlank := by decide
      have hcomma : expect? ',' ('\n' :: '\x7d' :: rest) = none :=
        expect?_append_of_ne hlineFeed (by decide) (by decide) rest
      have hbrace : expect? '\x7d' ('\n' :: '\x7d' :: rest) = some rest :=
        expect?_append hlineFeed (by decide) rest
      rw [membersChars, List.map_singleton, List.intercalate_singleton, List.cons_append,
        readMembers_of_readMember? (hread _), hcomma, hbrace]
      rfl
    | cons second ms =>
      have hlines : membersChars (m :: second :: ms) ++ '\n' :: '\x7d' :: rest =
          '\n' :: ([' ', ' '] ++ memberChars m ++
            ',' :: (membersChars (second :: ms) ++ '\n' :: '\x7d' :: rest)) := by
        rw [membersChars, List.map_cons, List.map_cons, List.intercalate_cons_cons, membersChars,
          List.map_cons]
        simp only [List.cons_append, List.append_assoc, List.nil_append]
      have hcomma : ∀ rest' : List Char, expect? ',' (',' :: rest') = some rest' :=
        expect?_append (show ([] : List Char).all isJsonBlank from rfl) (by decide)
      rw [hlines, readMembers_of_readMember? (hread _), hcomma]
      simp only [ih (List.cons_ne_nil second ms), Option.map_some, List.map_cons]

/-- The first token of the members is the quote of a name. -/
theorem exists_membersChars_eq {ms : List (String × String)} (hne : ms ≠ []) :
    ∃ cs, membersChars ms = ['\n', ' ', ' '] ++ '"' :: cs := by
  match ms with
  | [] => exact absurd rfl hne
  | [m] =>
    rw [membersChars, List.map_singleton, List.intercalate_singleton]
    exact ⟨_, rfl⟩
  | m :: second :: ms =>
    rw [membersChars, List.map_cons, List.map_cons, List.intercalate_cons_cons]
    exact ⟨_, rfl⟩

end Members

/-! ### Objects -/

/-- A name behind all names that are there is set at the end. -/
theorem setMember_of_forall_lt {name value : String} {ms : List (String × String)}
    (h : ∀ m ∈ ms, m.1 < name) : setMember name value ms = ms ++ [(name, value)] := by
  induction ms with
  | nil => rfl
  | cons m ms ih =>
    obtain ⟨hlt, hms⟩ := List.forall_mem_cons.1 h
    rw [setMember, if_neg (lt_asymm hlt), if_neg (ne_of_gt hlt), ih hms, List.cons_append]

/-- Members that are set one after the other keep their order if their names ascend. -/
theorem foldl_setMember {ms : List (String × String)} (h : (ms.map Prod.fst).Pairwise (· < ·)) :
    ms.foldl (fun map m => setMember m.1 m.2 map) [] = ms := by
  induction ms using List.reverseRecOn with
  | nil => rfl
  | append_singleton ms m ih =>
    rw [List.map_append, List.map_singleton, List.pairwise_append] at h
    obtain ⟨hms, -, hlast⟩ := h
    have hlt : ∀ m' ∈ ms, m'.1 < m.1 := fun m' hm' =>
      hlast m'.1 (List.mem_map_of_mem hm') m.1 (List.mem_singleton_self _)
    rw [List.foldl_append, ih hms, List.foldl_cons, List.foldl_nil, setMember_of_forall_lt hlt]

/-- The members of an object of strings in its indented form. -/
theorem prettyMembers_str (level : Nat) (ms : List (String × String)) :
    prettyMembers level (ms.map fun m => (m.1, .str m.2)) =
      ms.map fun m => String.ofList (memberChars m) := by
  induction ms with
  | nil => rfl
  | cons m ms ih =>
    rw [List.map_cons, prettyMembers, ih, List.map_cons, prettyAt, quote, quote, memberChars,
      String.ofList_append, String.ofList_append]

/-- The characters of an object of strings in its indented form. -/
theorem toList_pretty {ms : List (String × String)} (hne : ms ≠ []) :
    (obj (ms.map fun m => (m.1, .str m.2))).pretty.toList =
      '\x7b' :: (membersChars ms ++ ['\n', '\x7d']) := by
  have hitems : (ms.map fun m => String.ofList (memberChars m)).isEmpty = false := by
    cases ms with
    | nil => exact absurd rfl hne
    | cons m ms => rfl
  have hindent : (indent 1).toList = [' ', ' '] := by decide
  have hlines : ((ms.map fun m => String.ofList (memberChars m)).map (indent 1 ++ ·)).map
      String.toList = ms.map fun m => [' ', ' '] ++ memberChars m := by
    simp only [List.map_map, Function.comp_def, String.toList_append, String.toList_ofList,
      hindent]
  rw [pretty, prettyAt, prettyMembers_str, block, hitems, if_neg Bool.false_ne_true]
  simp only [String.toList_append, String.toList_intercalate, hlines]
  simp [membersChars, indent]

/-- Reading an object of strings that was written gives its members back, if their names ascend. -/
theorem parseStringMap_pretty {ms : List (String × String)}
    (h : (ms.map Prod.fst).Pairwise (· < ·)) :
    parseStringMap (obj (ms.map fun m => (m.1, .str m.2))).pretty = some ms := by
  by_cases hne : ms = []
  · -- the form of an object without members is a pair of braces
    subst hne
    decide
  have hopen : expect? '\x7b' ('\x7b' :: (membersChars ms ++ ['\n', '\x7d'])) =
      some (membersChars ms ++ ['\n', '\x7d']) :=
    expect?_append (show ([] : List Char).all isJsonBlank from rfl) (by decide) _
  have hbrace : expect? '\x7d' (membersChars ms ++ ['\n', '\x7d']) = none := by
    obtain ⟨cs, hcs⟩ := exists_membersChars_eq hne
    rw [hcs, List.append_assoc]
    exact expect?_append_of_ne (by decide) (by decide) (by decide) _
  have hobject : readObject (membersChars ms ++ ['\n', '\x7d']) =
      some (ms.map fun m => (m.1.toList, m.2.toList), []) := by
    rw [readObject, hbrace]
    exact readMembers_membersChars hne []
  have hend : skipBlanks [] = [] := rfl
  rw [parseStringMap, toList_pretty hne, hopen]
  simp only [Option.bind_eq_bind, Option.bind_some, hobject, hend, if_true, Option.pure_def,
    List.foldl_map, String.ofList_toList, foldl_setMember h]

end Json

end DogRegistry
