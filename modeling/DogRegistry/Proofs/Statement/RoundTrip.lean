import DogRegistry.Proofs.Basic
import DogRegistry.Proofs.Statement.Written

/-!
# The text form of a statement

A statement is written without quotes, so it can only be read back where the values need none.
What is read from a text is always of the form that a text can have, but its values may be such
that they are read as other ones once they are written again.

## Main definitions

* `PlainValue` — nothing is removed of a value when it is read.
* `InsertStatement.WellFormed` — the table, the tuples and the values can stand in a text.
* `InsertStatement.Canonical` — and the values are plain.
* `InsertStatement.reread` — the statement that the text of a statement is read as.

## Main results

* `parseValue_eq_self_iff` — the plain values need no quotes.
* `InsertStatement.wellFormed_of_parse` — every statement that is read from a text is well formed.
* `InsertStatement.WellFormed.parse_toText` — the text of a well-formed statement can be read, unless
  all of its tuples are written as empty groups.
* `InsertStatement.parse_toText_self_iff` — the canonical statements are those that their text form
  keeps.
-/

namespace DogRegistry

open Text

/-! ### Values -/

/-- A value of which nothing is removed when it is read. -/
structure PlainValue (value : String) : Prop where
  /-- The value does not begin with a blank. -/
  first_not_blank : ∀ c, value.toList.head? = some c → isBlank c = false
  /-- The value does not end with a blank. -/
  last_not_blank : ∀ c, value.toList.getLast? = some c → isBlank c = false
  /-- The value does not stand between two equal quotes. -/
  not_inQuotes : ¬ InQuotes value.toList

/-- The plain values are read as themselves when they are written without quotes. -/
theorem parseValue_eq_self_iff {value : String} : parseValue value = value ↔ PlainValue value := by
  have hclean : parseValue value = value ↔ cleanValue value.toList = value.toList := by
    rw [← String.toList_inj, parseValue, String.toList_ofList]
  rw [hclean]
  constructor
  · intro hself
    -- nothing is lost in either step, since both only remove characters
    have hlength : value.toList.length ≤ (trimChars value.toList).length := by
      have hle := (unquote_sublist (trimChars value.toList)).length_le
      rwa [← cleanValue, hself] at hle
    have htrim : trimChars value.toList = value.toList :=
      (trimChars_sublist value.toList).eq_of_length_le hlength
    rw [cleanValue, htrim] at hself
    exact
      { first_not_blank := fun c hc => isBlank_eq_false_of_head?_trimChars (htrim.symm ▸ hc)
        last_not_blank := fun c hc => isBlank_eq_false_of_getLast?_trimChars (htrim.symm ▸ hc)
        not_inQuotes := unquote_eq_self_iff.1 hself }
  · rintro ⟨hfirst, hlast, hquotes⟩
    rw [cleanValue, trimChars_eq_self hfirst hlast, unquote_of_not_inQuotes hquotes]

/-- A space in front of a value does not belong to it. -/
theorem parseValue_space_append (value : String) : parseValue (" " ++ value) = parseValue value := by
  rw [parseValue, String.toList_append]
  rfl

/-- Values are written with a space behind every comma. -/
theorem intercalate_comma_space (first : String) (values : List String) :
    ", ".intercalate (first :: values) = ",".intercalate (first :: values.map (" " ++ ·)) := by
  induction values generalizing first with
  | nil => rfl
  | cons second values ih =>
    have hspaced : ", " = "," ++ " " := rfl
    calc ", ".intercalate (first :: second :: values)
        = first ++ "," ++ (" " ++ ", ".intercalate (second :: values)) := by
          rw [String.intercalate_cons_cons, hspaced]
          simp only [String.append_assoc]
      _ = first ++ "," ++ ",".intercalate ((" " ++ second) :: values.map (" " ++ ·)) := by
          rw [ih, append_intercalate_cons]
      _ = ",".intercalate (first :: (second :: values).map (" " ++ ·)) := by
          rw [List.map_cons, String.intercalate_cons_cons]

/-- The values of a tuple that is written are read one by one. -/
theorem groupValues_tuple {values : List String} (hne : values ≠ [])
    (h : ∀ value ∈ values, ',' ∉ value.toList) :
    groupValues (", ".intercalate values).toList = values.map parseValue := by
  obtain ⟨first, values, rfl⟩ := List.exists_cons_of_ne_nil hne
  obtain ⟨hfirst, hvalues⟩ := List.forall_mem_cons.1 h
  have hpieces : ∀ piece ∈ first :: values.map (" " ++ ·), ',' ∉ piece.toList := by
    refine List.forall_mem_cons.2 ⟨hfirst, fun piece hpiece hcomma => ?_⟩
    obtain ⟨value, hvalue, rfl⟩ := List.mem_map.1 hpiece
    rw [String.toList_append, List.mem_append] at hcomma
    rcases hcomma with hspace | hcomma
    · exact absurd hspace (by decide)
    · exact hvalues value hvalue hcomma
  rw [intercalate_comma_space, groupValues_intercalate (List.cons_ne_nil _ _) hpieces,
    List.map_cons, List.map_cons, List.map_map]
  exact congrArg _ (List.map_congr_left fun value _ => parseValue_space_append value)

/-- Only the single empty value is written as nothing. -/
theorem intercalate_eq_empty_iff {values : List String} (hne : values ≠ []) :
    ", ".intercalate values = "" ↔ values = [""] := by
  obtain ⟨first, values, rfl⟩ := List.exists_cons_of_ne_nil hne
  cases values with
  | nil => simp
  | cons second values =>
    have hcomma : ',' ∈ (", ".intercalate (first :: second :: values)).toList :=
      mem_toList_intercalate_iff.2 (.inl ⟨by decide, by simp⟩)
    constructor
    · intro hempty
      rw [hempty] at hcomma
      exact absurd hcomma (by decide)
    · intro hsingle
      exact absurd hsingle (by simp)

/-! ### Headers -/

/-- A word holds word characters only. -/
theorem IsLexeme.isWordChar {after text : List Char} (h : IsLexeme after .word text) :
    text ≠ [] ∧ ∀ c ∈ text, isWordChar c := by
  cases h with
  | word hne hword _ => exact ⟨hne, hword⟩

theorem Cursor.isWordChar_of_next? {c c' : Cursor} {t : Token} (h : c.next? = some (t, c'))
    (hkind : t.kind = .word) : t.text ≠ "" ∧ ∀ w ∈ t.text.toList, isWordChar w := by
  obtain ⟨_, hn⟩ := next?_eq_some_iff.1 h
  have hlexeme := hn.isLexeme
  rw [hkind] at hlexeme
  exact ⟨fun hempty => hlexeme.isWordChar.1 (String.toList_eq_nil_iff.2 hempty),
    hlexeme.isWordChar.2⟩

namespace InsertStatement

/-- A header names a word. -/
theorem isWordChar_of_header? {cs rest : List Char} {table : String}
    (h : header? cs = some (table, rest)) :
    table ≠ "" ∧ ∀ c ∈ table.toList, isWordChar c := by
  simp only [header?, Option.bind_eq_bind, Option.bind_eq_some_iff] at h
  obtain ⟨⟨insert, c₁⟩, -, ⟨into, c₂⟩, -, ⟨t, c₃⟩, hnext, h⟩ := h
  split at h
  next hkinds =>
    simp only [Bool.and_eq_true, beq_iff_eq] at hkinds
    obtain ⟨c₄, -, hpair⟩ := Option.bind_eq_some_iff.1 h
    obtain ⟨rfl, -⟩ := Prod.mk.inj (Option.some.inj hpair)
    exact Cursor.isWordChar_of_next? hnext hkinds.2
  next => exact absurd h (by simp)

/-! ### Statements -/

/-- A statement that can stand in a text: the table is a word, every tuple has a value, and no value
holds a character that ends it. -/
structure WellFormed (s : InsertStatement) : Prop where
  /-- The table is not empty. -/
  table_ne_empty : s.table ≠ ""
  /-- The table is a word. -/
  isWordChar_table : ∀ c ∈ s.table.toList, isWordChar c
  /-- There is a tuple. -/
  tuples_ne_nil : s.tuples ≠ []
  /-- Every tuple has a value. -/
  values_ne_nil : ∀ values ∈ s.tuples, values ≠ []
  /-- No value holds the separator of values. -/
  comma_not_mem : ∀ values ∈ s.tuples, ∀ value ∈ values, ',' ∉ value.toList
  /-- No value holds the end of a group. -/
  closing_not_mem : ∀ values ∈ s.tuples, ∀ value ∈ values, ')' ∉ value.toList

/-- A well-formed statement that loses nothing when it is written without quotes. -/
structure Canonical (s : InsertStatement) : Prop extends s.WellFormed where
  /-- No tuple is written as an empty group. -/
  values_ne_empty : ∀ values ∈ s.tuples, values ≠ [""]
  /-- All values are plain. -/
  plain : ∀ values ∈ s.tuples, ∀ value ∈ values, PlainValue value

/-- The statement that the text of a statement is read as. -/
def reread (s : InsertStatement) : InsertStatement :=
  { s with tuples := (s.tuples.filter (· ≠ [""])).map fun values => values.map parseValue }

variable {s : InsertStatement}

/-- Every statement that is read from a text is well formed. -/
theorem wellFormed_of_parse {text : String} (h : parse text = .ok s) : s.WellFormed := by
  obtain ⟨rest, hheader, htuples, hne⟩ := exists_header_of_parse h
  obtain ⟨htable, hword⟩ := isWordChar_of_header? hheader
  refine ⟨htable, hword, hne, fun values hvalues => ?_, comma_not_mem_of_parse h,
    fun values hvalues => ?_⟩
  · rw [htuples] at hvalues
    obtain ⟨content, -, rfl⟩ := List.mem_map.1 hvalues
    exact List.ne_nil_of_length_pos (by rw [length_groupValues]; exact Nat.succ_pos _)
  · rw [htuples] at hvalues
    exact closing_not_mem_of_mem_tuplesOfChars hvalues

theorem toText_eq (s : InsertStatement) :
    s.toText = writtenWith ", " s.table (s.tuples.map (", ".intercalate ·)) := by
  rw [toText, writtenWith, List.map_map]
  rfl

/-- The text of a well-formed statement can be read, unless all of its tuples are written as empty
groups. -/
theorem WellFormed.parse_toText (h : s.WellFormed) :
    parse s.toText = if s.reread.tuples = [] then .error .noTuples else .ok s.reread := by
  have hbodies : ∀ body ∈ s.tuples.map (", ".intercalate ·), ')' ∉ body.toList :=
    List.forall_mem_map.2 fun values hvalues =>
      not_mem_toList_intercalate (by decide) (h.closing_not_mem values hvalues)
  have hfilter : (s.tuples.map (", ".intercalate ·)).filter (· ≠ "") =
      (s.tuples.filter (· ≠ [""])).map (", ".intercalate ·) := by
    rw [List.filter_map]
    refine congrArg _ (List.filter_congr fun values hvalues => ?_)
    exact decide_eq_decide.2 (not_congr (intercalate_eq_empty_iff (h.values_ne_nil values hvalues)))
  have hvalues : ((s.tuples.filter (· ≠ [""])).map (", ".intercalate ·)).map
      (fun body => groupValues body.toList) = s.reread.tuples := by
    rw [List.map_map]
    refine List.map_congr_left fun values hmem => ?_
    have hvalues : values ∈ s.tuples := (List.mem_filter.1 hmem).1
    exact groupValues_tuple (h.values_ne_nil values hvalues) (h.comma_not_mem values hvalues)
  have hnil : (s.tuples.filter (· ≠ [""])).map (", ".intercalate ·) = [] ↔ s.reread.tuples = [] := by
    rw [← hvalues, List.map_eq_nil_iff (f := fun body : String => groupValues body.toList)]
  rw [toText_eq, parse_writtenWith (by decide) h.table_ne_empty h.isWordChar_table
    (mt List.map_eq_nil_iff.1 h.tuples_ne_nil) hbodies, hfilter, hvalues]
  simp only [hnil]
  rfl

/-- A statement is read as itself if none of its tuples is passed over and all of its values are read
as themselves. -/
theorem reread_eq_self_iff :
    s.reread = s ↔
      ∀ values ∈ s.tuples, values ≠ [""] ∧ ∀ value ∈ values, parseValue value = value := by
  have htuples : s.reread = s ↔ s.reread.tuples = s.tuples :=
    ⟨congrArg tuples, fun h => congrArg (InsertStatement.mk s.table) h⟩
  have hvalues (values : List String) :
      values.map parseValue = values ↔ ∀ value ∈ values, parseValue value = value := by
    have hself : (values.filter fun _ => true).map parseValue = values ↔
        ∀ value ∈ values, true ∧ parseValue value = value := map_filter_eq_self_iff
    simpa only [List.filter_true, true_and] using hself
  rw [htuples, reread, map_filter_eq_self_iff]
  simp only [hvalues, decide_eq_true_eq]

/-- The text form of a statement gives the statement back if and only if the statement is
canonical. -/
theorem parse_toText_self_iff (s : InsertStatement) : parse s.toText = .ok s ↔ s.Canonical := by
  constructor
  · intro h
    have hwell : s.WellFormed := wellFormed_of_parse h
    rw [hwell.parse_toText] at h
    split at h
    next => exact absurd h (by simp)
    next =>
      have hself := reread_eq_self_iff.1 (Except.ok.inj h)
      exact
        { hwell with
          values_ne_empty := fun values hvalues => (hself values hvalues).1
          plain := fun values hvalues value hvalue =>
            parseValue_eq_self_iff.1 ((hself values hvalues).2 value hvalue) }
  · intro h
    have hself : s.reread = s :=
      reread_eq_self_iff.2 fun values hvalues => ⟨h.values_ne_empty values hvalues,
        fun value hvalue => parseValue_eq_self_iff.2 (h.plain values hvalues value hvalue)⟩
    rw [h.toWellFormed.parse_toText, hself, if_neg h.tuples_ne_nil]

-- a lone quote, an opening parenthesis and the name of a keyword are kept as they are
example : parse (toText ⟨"INTO", [["(a", "'"], ["", "x y"]]⟩) =
    .ok ⟨"INTO", [["(a", "'"], ["", "x y"]]⟩ := by
  decide +kernel

end InsertStatement

end DogRegistry
