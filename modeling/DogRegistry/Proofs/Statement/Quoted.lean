import DogRegistry.Proofs.Statement.Written

/-!
# Quoted values

A value between quotes is taken verbatim: blanks and quotes inside it belong to it, and so do
opening parentheses and line breaks.  Only commas and closing parentheses cannot be quoted, since
groups are cut out and cut into pieces before any quotes are removed.

## Main definitions

* `QuotedValue` — a value that can be quoted, and how it is written.
* `QuotedValue.text`, `QuotedValue.groupText` — the written form of a value and of a list of values.

## Main results

* `QuotedValue.parseValue_text` — a quoted value is read as it is.
* `QuotedValue.groupValues_groupText` — so are the values of a group.
* `InsertStatement.parse_quoted` — so are the tuples of a statement with any word for a table.
-/

namespace DogRegistry

open Text

/-- A value with the quotes it is written between and the blanks around them. -/
structure QuotedValue where
  /-- The value, which may be empty. -/
  value : String
  /-- The quote in front of the value and behind it. -/
  quote : Char
  /-- The blanks in front of the first quote. -/
  before : String
  /-- The blanks behind the last quote. -/
  after : String
  isQuote_quote : isQuote quote
  isBlankText_before : isBlankText before
  isBlankText_after : isBlankText after
  comma_not_mem : ',' ∉ value.toList
  closing_not_mem : ')' ∉ value.toList

namespace QuotedValue

/-- The value the way it is written. -/
def text (v : QuotedValue) : String :=
  v.before ++ (String.singleton v.quote ++ v.value ++ String.singleton v.quote) ++ v.after

/-- Several values the way they are written inside a group. -/
def groupText (values : List QuotedValue) : String :=
  ",".intercalate (values.map text)

theorem toList_text (v : QuotedValue) :
    v.text.toList =
      v.before.toList ++ ((v.quote :: (v.value.toList ++ [v.quote])) ++ v.after.toList) := by
  simp only [text, String.toList_append, String.toList_singleton, List.append_assoc,
    List.cons_append, List.nil_append]

/-- A quoted value is read as it is. -/
theorem parseValue_text (v : QuotedValue) : parseValue v.text = v.value := by
  have hquote : isBlank v.quote = false := isBlank_eq_false_of_isQuote v.isQuote_quote
  have hblanks : trimChars v.text.toList = trimChars (v.quote :: (v.value.toList ++ [v.quote])) := by
    rw [toList_text]
    exact trimChars_between_blanks (List.all_eq_true.1 v.isBlankText_before)
      (List.all_eq_true.1 v.isBlankText_after) _
  -- the blanks next to a quote belong to the value
  have hquotes : trimChars (v.quote :: (v.value.toList ++ [v.quote])) =
      v.quote :: (v.value.toList ++ [v.quote]) := by
    refine trimChars_eq_self (fun c hc => ?_) (fun c hc => ?_)
    · obtain rfl : v.quote = c := Option.some.inj hc
      exact hquote
    · rw [← List.cons_append, List.getLast?_concat] at hc
      obtain rfl : v.quote = c := Option.some.inj hc
      exact hquote
  rw [parseValue, cleanValue, hblanks, hquotes, unquote_quoted v.isQuote_quote,
    String.ofList_toList]

/-- Other characters than blanks and quotes are written only if the value holds them. -/
theorem not_mem_text {c : Char} {v : QuotedValue} (hblank : isBlank c = false)
    (hquote : isQuote c = false) (h : c ∉ v.value.toList) : c ∉ v.text.toList := by
  have hbefore : c ∉ v.before.toList := not_mem_of_isBlankText v.isBlankText_before hblank
  have hafter : c ∉ v.after.toList := not_mem_of_isBlankText v.isBlankText_after hblank
  have hne : c ≠ v.quote := by
    rintro rfl
    exact Bool.false_ne_true (hquote.symm.trans v.isQuote_quote)
  simp only [toList_text, List.mem_append, List.mem_cons, List.not_mem_nil, hbefore, hafter, hne, h,
    or_self, not_false_eq_true]

theorem not_mem_groupText {c : Char} {values : List QuotedValue} (hcomma : c ≠ ',')
    (hblank : isBlank c = false) (hquote : isQuote c = false)
    (h : ∀ v ∈ values, c ∉ v.value.toList) : c ∉ (groupText values).toList := by
  have hpieces : ∀ piece ∈ values.map text, c ∉ piece.toList :=
    List.forall_mem_map.2 fun v hv => not_mem_text hblank hquote (h v hv)
  exact not_mem_toList_intercalate (mt List.mem_singleton.1 hcomma) hpieces

/-- The values of a group that is written are read as they are. -/
theorem groupValues_groupText {values : List QuotedValue} (h : values ≠ []) :
    groupValues (groupText values).toList = values.map value := by
  have hpieces : ∀ piece ∈ values.map text, ',' ∉ piece.toList :=
    List.forall_mem_map.2 fun v _ => not_mem_text (by decide) (by decide) v.comma_not_mem
  rw [groupText, groupValues_intercalate (mt List.map_eq_nil_iff.1 h) hpieces, List.map_map]
  exact List.map_congr_left fun v _ => v.parseValue_text

/-- A group with a value is not empty, even if its values are. -/
theorem groupText_ne_empty {values : List QuotedValue} (h : values ≠ []) : groupText values ≠ "" := by
  obtain ⟨v, values, rfl⟩ := List.exists_cons_of_ne_nil h
  have hquote : v.quote ∈ (groupText (v :: values)).toList := by
    refine mem_toList_intercalate_iff.2 (.inr ⟨v.text, List.mem_cons_self, ?_⟩)
    rw [toList_text]
    exact List.mem_append_right _ (List.mem_append_left _ List.mem_cons_self)
  intro hempty
  rw [hempty] at hquote
  exact List.not_mem_nil hquote

end QuotedValue

namespace InsertStatement

open QuotedValue

/-- A statement with quoted values is read as its table and exactly these values, whatever word the
table is, with or without blanks around the commas between its groups.  If no value holds a
semicolon, it is the only statement of its text. -/
theorem parse_quoted {name before after : String} {tuples : List (List QuotedValue)}
    (hname : name ≠ "") (hword : ∀ c ∈ name.toList, isWordChar c)
    (hbefore : isBlankText before) (hafter : isBlankText after) (hne : tuples ≠ [])
    (hvalues : ∀ values ∈ tuples, values ≠ []) :
    let text := writtenWith (before ++ "," ++ after) name (tuples.map groupText)
    parse text = .ok ⟨name, tuples.map fun values => values.map value⟩ ∧
      ((∀ values ∈ tuples, ∀ v ∈ values, ';' ∉ v.value.toList) → statements text = [text]) := by
  have hsep (c : Char) (hcomma : c ≠ ',') (hblank : isBlank c = false) :
      c ∉ (before ++ "," ++ after).toList := by
    simp only [String.toList_append, List.mem_append, not_mem_of_isBlankText hbefore hblank,
      not_mem_of_isBlankText hafter hblank, or_false, false_or]
    exact fun hmem => hcomma (List.mem_singleton.1 hmem)
  have hbodies : tuples.map groupText ≠ [] := mt List.map_eq_nil_iff.1 hne
  refine ⟨?_, fun hsemicolon => ?_⟩
  · have hgroups : ∀ body ∈ tuples.map groupText, body ≠ "" ∧ ')' ∉ body.toList :=
      List.forall_mem_map.2 fun values hmem => ⟨groupText_ne_empty (hvalues values hmem),
        not_mem_groupText (by decide) (by decide) (by decide) fun v _ => v.closing_not_mem⟩
    rw [parse_writtenWith_of_ne (hsep '(' (by decide) (by decide)) hname hword hbodies hgroups,
      List.map_map]
    have hread : tuples.map ((fun body => groupValues body.toList) ∘ groupText) =
        tuples.map fun values => values.map value :=
      List.map_congr_left fun values hmem => groupValues_groupText (hvalues values hmem)
    rw [hread]
  · have hgroups : ∀ body ∈ tuples.map groupText, ';' ∉ body.toList :=
      List.forall_mem_map.2 fun values hmem =>
        not_mem_groupText (by decide) (by decide) (by decide) (hsemicolon values hmem)
    exact statements_writtenWith (hsep ';' (by decide) (by decide)) hword hbodies hgroups

/-- Blanks, quotes, a line break and an opening parenthesis inside quotes, an empty value, and a
table with the name of a keyword. -/
theorem parse_quoted_keywordTable :
    let padded : QuotedValue :=
      ⟨" 'Rex' ", '\'', "\n", "\t", by decide, by decide, by decide, by decide, by decide⟩
    let empty : QuotedValue :=
      ⟨"", '"', "", "", by decide, by decide, by decide, by decide, by decide⟩
    let broken : QuotedValue :=
      ⟨"(\"\n", '"', " ", "", by decide, by decide, by decide, by decide, by decide⟩
    let text := "INSERT INTO VALUES VALUES (\n' 'Rex' '\t,\"\") ,\n( \"(\"\n\")"
    writtenWith (" " ++ "," ++ "\n") "VALUES" ([[padded, empty], [broken]].map groupText) = text ∧
      ("VALUES" ≠ "" ∧ ∀ c ∈ "VALUES".toList, isWordChar c) ∧
      (isBlankText " " ∧ isBlankText "\n") ∧
      (∀ values ∈ [[padded, empty], [broken]], values ≠ []) ∧
      parse text = .ok ⟨"VALUES", [[" 'Rex' ", ""], ["(\"\n"]]⟩ ∧
      statements text = [text] := by
  intro padded empty broken text
  have hname : "VALUES" ≠ "" ∧ ∀ c ∈ "VALUES".toList, isWordChar c :=
    ⟨by decide, List.all_eq_true.1 (by decide)⟩
  have hblanks : isBlankText " " ∧ isBlankText "\n" := by decide
  have hvalues : ∀ values ∈ [[padded, empty], [broken]], values ≠ [] := by simp
  have htext : writtenWith (" " ++ "," ++ "\n") "VALUES"
      ([[padded, empty], [broken]].map groupText) = text := by
    decide +kernel
  have hsemicolon : ∀ values ∈ [[padded, empty], [broken]], ∀ v ∈ values,
      ';' ∉ v.value.toList := by
    decide +kernel
  obtain ⟨hparse, hstatements⟩ := parse_quoted hname.1 hname.2 hblanks.1 hblanks.2
    (List.cons_ne_nil _ _) hvalues
  have hone := hstatements hsemicolon
  rw [htext] at hparse hone
  exact ⟨htext, hname, hblanks, hvalues, hparse, hone⟩

end InsertStatement

end DogRegistry
