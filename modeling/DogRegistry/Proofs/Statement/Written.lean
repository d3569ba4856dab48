import DogRegistry.Proofs.Statement.Groups
import DogRegistry.Proofs.Statement.Separator
import DogRegistry.Proofs.Statement.Token

/-!
# Written statements

What becomes of a statement that is written out of its parts: the header is read word by word, up to
the keyword `VALUES`, and the text behind it is cut into groups.

## Main definitions

* `InsertStatement.written name bodies` — the statement for a table and the contents of its groups.
* `InsertStatement.writtenWith sep name bodies` — the same with another separator between groups.

## Main results

* `Cursor.exists_next?_word` — a word between blanks and other characters is the next token.
* `InsertStatement.header?_words` — a header is read up to its table, whatever the case of the
  keywords.
* `InsertStatement.parseChars_words` — a statement lists its tuples behind the keyword `VALUES`.
* `InsertStatement.statements_writtenWith` — a statement that is written is one statement.
* `InsertStatement.parse_writtenWith` — it is read as its table and the values of its groups.
-/

namespace DogRegistry

open Text

/-! ### Words -/

namespace Cursor

/-- A word between blanks and other characters is the next token. -/
theorem exists_next?_word {c : Cursor} {blanks word rest : List Char}
    (hc : c.rest = blanks ++ (word ++ rest)) (hblanks : ∀ b ∈ blanks, isBlank b) (hne : word ≠ [])
    (hword : ∀ w ∈ word, isWordChar w)
    (hrest : ∀ r, rest.head? = some r → isWordChar r = false) :
    ∃ t c', c.next? = some (t, c') ∧ t.kind = .word ∧ t.text = String.ofList word ∧
      c'.rest = rest := by
  have hnext : c.IsNext blanks
      ⟨.word, String.ofList word, c.offset + utf8Length blanks,
        c.offset + utf8Length blanks + utf8Length word⟩
      ⟨c.offset + utf8Length blanks + utf8Length word, rest⟩ :=
    { blank := hblanks
      rest_eq := by rw [hc, String.toList_ofList]
      isLexeme := by rw [String.toList_ofList]; exact .word hne hword hrest
      start_eq := rfl
      stop_eq := by rw [String.toList_ofList]
      offset_eq := rfl }
  exact ⟨_, _, hnext.next?_eq, rfl, rfl, rfl⟩

/-- A keyword is looked for behind every token that is another one. -/
theorem afterKeyword?_of_next? {c c' : Cursor} {t : Token} (hnext : c.next? = some (t, c'))
    (keyword : String) :
    c.afterKeyword? keyword =
      if t.isKeyword keyword then some c' else c'.afterKeyword? keyword := by
  rw [afterKeyword?]
  split
  next hnone => exact absurd (hnone.symm.trans hnext) (by simp)
  next t' c'' hsome =>
    obtain ⟨rfl, rfl⟩ := Prod.mk.inj (Option.some.inj (hnext.symm.trans hsome))
    rfl

end Cursor

/-! ### Headers -/

/-- A text that differs from a word at most in case is a word. -/
theorem isWordChar_of_equalsIgnoringAsciiCase {cs word : List Char}
    (h : equalsIgnoringAsciiCase cs word) (hword : word.all fun w => isWordChar w.toLower) :
    ∀ c ∈ cs, isWordChar c := by
  intro c hc
  have hmem : c.toLower ∈ word.map Char.toLower := eq_of_beq h ▸ List.mem_map_of_mem hc
  obtain ⟨w, hw, heq⟩ := List.mem_map.1 hmem
  exact isWordChar_of_toLower (heq ▸ List.all_eq_true.1 hword w hw)

theorem ne_nil_of_equalsIgnoringAsciiCase {cs word : List Char}
    (h : equalsIgnoringAsciiCase cs word) (hne : word ≠ []) : cs ≠ [] := by
  rintro rfl
  exact hne (List.map_eq_nil_iff.1 (eq_of_beq h).symm)

/-- A blank ends a word. -/
theorem isWordChar_eq_false_of_head?_blanks {blanks rest : List Char} (hne : blanks ≠ [])
    (hblanks : ∀ b ∈ blanks, isBlank b) :
    ∀ c, (blanks ++ rest).head? = some c → isWordChar c = false := by
  intro c hc
  obtain ⟨b, bs, rfl⟩ := List.exists_cons_of_ne_nil hne
  obtain rfl : b = c := Option.some.inj hc
  rw [Bool.eq_false_iff]
  intro hword
  exact Bool.false_ne_true ((isBlank_eq_false_of_isWordChar hword).symm.trans
    (hblanks b List.mem_cons_self))

theorem isWordChar_eq_false_of_head?_space (rest : List Char) :
    ∀ c, ([' '] ++ rest).head? = some c → isWordChar c = false :=
  isWordChar_eq_false_of_head?_blanks (List.cons_ne_nil ' ' []) (List.forall_mem_singleton.2 rfl)

theorem Token.isKeyword_of_word {t : Token} {word : List Char} {keyword : String}
    (hkind : t.kind = .word) (htext : t.text = String.ofList word)
    (h : equalsIgnoringAsciiCase word keyword.toList) : t.isKeyword keyword := by
  rw [isKeyword, hkind, htext, String.toList_ofList, h]
  rfl

namespace InsertStatement

/-- The header of a statement is read up to its table, whatever the case of the keywords, and then
on to the keyword `VALUES`. -/
theorem header?_words {insert gap into gap' name rest : List Char}
    (hinsert : equalsIgnoringAsciiCase insert "INSERT".toList)
    (hgap : gap ≠ []) (hgapBlank : ∀ b ∈ gap, isBlank b)
    (hinto : equalsIgnoringAsciiCase into "INTO".toList)
    (hgap' : gap' ≠ []) (hgapBlank' : ∀ b ∈ gap', isBlank b)
    (hname : name ≠ []) (hword : ∀ c ∈ name, isWordChar c)
    (hrest : ∀ c, rest.head? = some c → isWordChar c = false) :
    ∃ c : Cursor, c.rest = rest ∧
      header? (insert ++ (gap ++ (into ++ (gap' ++ (name ++ rest))))) =
        (c.afterKeyword? "VALUES").map fun c => (String.ofList name, c.rest) := by
  obtain ⟨t₁, c₁, hnext₁, hkind₁, htext₁, hc₁⟩ := Cursor.exists_next?_word
    (c := .start (insert ++ (gap ++ (into ++ (gap' ++ (name ++ rest))))))
    (List.nil_append _).symm (List.forall_mem_nil _)
    (ne_nil_of_equalsIgnoringAsciiCase hinsert (by decide))
    (isWordChar_of_equalsIgnoringAsciiCase hinsert (by decide))
    (isWordChar_eq_false_of_head?_blanks hgap hgapBlank)
  obtain ⟨t₂, c₂, hnext₂, hkind₂, htext₂, hc₂⟩ := Cursor.exists_next?_word hc₁ hgapBlank
    (ne_nil_of_equalsIgnoringAsciiCase hinto (by decide))
    (isWordChar_of_equalsIgnoringAsciiCase hinto (by decide))
    (isWordChar_eq_false_of_head?_blanks hgap' hgapBlank')
  obtain ⟨t₃, c₃, hnext₃, hkind₃, htext₃, hc₃⟩ :=
    Cursor.exists_next?_word hc₂ hgapBlank' hname hword hrest
  refine ⟨c₃, hc₃, ?_⟩
  have hkeyword₁ := Token.isKeyword_of_word hkind₁ htext₁ hinsert
  have hkeyword₂ := Token.isKeyword_of_word hkind₂ htext₂ hinto
  simp only [header?, hnext₁, hnext₂, hnext₃, hkeyword₁, hkeyword₂, hkind₃, htext₃,
    Option.bind_eq_bind, Option.bind_some, beq_self_eq_true, Bool.and_self, if_true]
  cases c₃.afterKeyword? "VALUES" with
  | none => rfl
  | some c => rfl

end InsertStatement

/-! ### Statements -/

namespace InsertStatement

/-- Behind the keyword `VALUES` a statement lists its tuples. -/
theorem parseChars_words {name rest : List Char} (hname : name ≠ [])
    (hword : ∀ c ∈ name, isWordChar c)
    (hrest : ∀ c, rest.head? = some c → isWordChar c = false) :
    parseChars ("INSERT".toList ++ ([' '] ++ ("INTO".toList ++ ([' '] ++
        (name ++ ([' '] ++ ("VALUES".toList ++ rest))))))) =
      if tuplesOfChars rest = [] then .error .noTuples
      else .ok ⟨String.ofList name, tuplesOfChars rest⟩ := by
  have hspace : ∀ b ∈ [' '], isBlank b := List.forall_mem_singleton.2 rfl
  have hinsert : equalsIgnoringAsciiCase "INSERT".toList "INSERT".toList := rfl
  have hinto : equalsIgnoringAsciiCase "INTO".toList "INTO".toList := rfl
  obtain ⟨c, hc, hheader⟩ := header?_words hinsert (List.cons_ne_nil _ _) hspace hinto
    (List.cons_ne_nil _ _) hspace hname hword
    (isWordChar_eq_false_of_head?_space ("VALUES".toList ++ rest))
  obtain ⟨t, c', hnext, hkind, htext, hc'⟩ := Cursor.exists_next?_word hc hspace (by decide)
    (List.all_eq_true.1 (by decide)) hrest
  have hkeyword : t.isKeyword "VALUES" := Token.isKeyword_of_word hkind htext rfl
  rw [Cursor.afterKeyword?_of_next? hnext, if_pos hkeyword, Option.map_some, hc'] at hheader
  have hbegins : beginsInsert ("INSERT".toList ++ ([' '] ++ ("INTO".toList ++ ([' '] ++
      (name ++ ([' '] ++ ("VALUES".toList ++ rest))))))) := rfl
  rw [parseChars, hbegins, hheader]
  rfl

/-- The statement that names a table and lists groups with the given contents, with a separator
between the groups. -/
def writtenWith (sep name : String) (bodies : List String) : String :=
  "INSERT INTO " ++ name ++ " VALUES " ++
    sep.intercalate (bodies.map fun body => "(" ++ body ++ ")")

/-- The statement that names a table and lists groups with the given contents. -/
def written (name : String) (bodies : List String) : String :=
  "INSERT INTO " ++ name ++ " VALUES " ++
    ", ".intercalate (bodies.map fun body => "(" ++ body ++ ")")

example : written "dogs" ["1, 'a'", "2"] = "INSERT INTO dogs VALUES (1, 'a'), (2)" := by
  decide +kernel

variable {sep name : String} {bodies : List String}

theorem written_eq (name : String) (bodies : List String) :
    written name bodies = writtenWith ", " name bodies := rfl

theorem toList_writtenWith (sep name : String) (bodies : List String) :
    (writtenWith sep name bodies).toList = "INSERT".toList ++ ([' '] ++ ("INTO".toList ++ ([' '] ++
      (name.toList ++ ([' '] ++ ("VALUES".toList ++ ([' '] ++
        (sep.intercalate (bodies.map fun body => "(" ++ body ++ ")")).toList))))))) := by
  simp [writtenWith, String.toList_append]

/-- A statement with a group ends where its last group does. -/
theorem getLast?_toList_writtenWith (h : bodies ≠ []) :
    (writtenWith sep name bodies).toList.getLast? = some ')' := by
  have hgroups : (sep.intercalate (bodies.map fun body => "(" ++ body ++ ")")).toList.getLast? =
      some ')' := by
    induction bodies with
    | nil => exact absurd rfl h
    | cons body bodies ih =>
      cases bodies with
      | nil =>
        rw [List.map_singleton, String.intercalate_singleton, String.toList_append]
        exact List.getLast?_concat
      | cons next bodies =>
        have hnext := ih (List.cons_ne_nil _ _)
        rw [List.map_cons] at hnext
        rw [List.map_cons, List.map_cons, String.intercalate_cons_cons, String.toList_append,
          List.getLast?_append, hnext]
        rfl
  simp only [toList_writtenWith, ← List.append_assoc]
  rw [List.getLast?_append, hgroups]
  rfl

/-- No blanks stand around a statement with a group. -/
theorem trim_writtenWith (h : bodies ≠ []) :
    trim (writtenWith sep name bodies) = writtenWith sep name bodies := by
  rw [← String.toList_inj, toList_trim]
  refine trimChars_eq_self (fun c hc => ?_) (fun c hc => ?_)
  · rw [toList_writtenWith] at hc
    obtain rfl : 'I' = c := Option.some.inj hc
    decide
  · obtain rfl : ')' = c := Option.some.inj ((getLast?_toList_writtenWith h).symm.trans hc)
    decide

/-- A statement holds a semicolon only if its table, its separator or one of its groups does. -/
theorem semicolon_not_mem_writtenWith (hsep : ';' ∉ sep.toList) (hname : ';' ∉ name.toList)
    (hbodies : ∀ body ∈ bodies, ';' ∉ body.toList) :
    ';' ∉ (writtenWith sep name bodies).toList := by
  have hgroup (body : String) (h : ';' ∉ body.toList) : ';' ∉ ("(" ++ body ++ ")").toList := by
    simp only [String.toList_append, List.mem_append, h]
    decide
  have hgroups : ';' ∉ (sep.intercalate (bodies.map fun body => "(" ++ body ++ ")")).toList :=
    not_mem_toList_intercalate hsep
      (List.forall_mem_map.2 fun body hbody => hgroup body (hbodies body hbody))
  rw [toList_writtenWith]
  simp only [List.mem_append, hname, hgroups]
  decide

/-- A statement that is written for a word is its only statement, if it holds no semicolon. -/
theorem statements_writtenWith (hsep : ';' ∉ sep.toList) (hword : ∀ c ∈ name.toList, isWordChar c)
    (hne : bodies ≠ []) (hbodies : ∀ body ∈ bodies, ';' ∉ body.toList) :
    statements (writtenWith sep name bodies) = [writtenWith sep name bodies] := by
  have hseparator : ';' ∉ (writtenWith sep name bodies).toList :=
    semicolon_not_mem_writtenWith hsep (fun hmem => absurd (hword _ hmem) (by decide)) hbodies
  have hnonempty : writtenWith sep name bodies ≠ "" := by
    intro hempty
    have hlast : (writtenWith sep name bodies).toList.getLast? = some ')' :=
      getLast?_toList_writtenWith hne
    rw [hempty] at hlast
    exact absurd hlast (by decide)
  exact statements_eq_singleton hseparator (trim_writtenWith hne) hnonempty

/-- A statement that is written is read as its table and the values of its groups, where empty
groups are passed over. -/
theorem parse_writtenWith (hsep : '(' ∉ sep.toList) (hname : name ≠ "")
    (hword : ∀ c ∈ name.toList, isWordChar c) (hne : bodies ≠ [])
    (hbodies : ∀ body ∈ bodies, ')' ∉ body.toList) :
    parse (writtenWith sep name bodies) =
      if bodies.filter (· ≠ "") = [] then .error .noTuples
      else .ok ⟨name, (bodies.filter (· ≠ "")).map fun body => groupValues body.toList⟩ := by
  have hchars : trimChars (writtenWith sep name bodies).toList =
      (writtenWith sep name bodies).toList := by
    rw [← toList_trim, trim_writtenWith hne]
  have htuples : tuplesOfChars ([' '] ++
      (sep.intercalate (bodies.map fun body => "(" ++ body ++ ")")).toList) =
      (bodies.filter (· ≠ "")).map fun body => groupValues body.toList := by
    rw [tuplesOfChars, groups_append_of_not_mem (by decide), groups_intercalate hsep hbodies,
      List.map_map]
    rfl
  rw [parse, hchars, toList_writtenWith,
    parseChars_words (fun hnil => hname (String.toList_eq_nil_iff.1 hnil)) hword
      (isWordChar_eq_false_of_head?_space _), htuples, String.ofList_toList]
  simp only [List.map_eq_nil_iff]

/-- So no group is passed over if none is empty. -/
theorem parse_writtenWith_of_ne (hsep : '(' ∉ sep.toList) (hname : name ≠ "")
    (hword : ∀ c ∈ name.toList, isWordChar c) (hne : bodies ≠ [])
    (hbodies : ∀ body ∈ bodies, body ≠ "" ∧ ')' ∉ body.toList) :
    parse (writtenWith sep name bodies) =
      .ok ⟨name, bodies.map fun body => groupValues body.toList⟩ := by
  have hall : bodies.filter (· ≠ "") = bodies :=
    List.filter_eq_self.2 fun body hbody => decide_eq_true (hbodies body hbody).1
  rw [parse_writtenWith hsep hname hword hne fun body hbody => (hbodies body hbody).2, hall,
    if_neg hne]

end InsertStatement

end DogRegistry
