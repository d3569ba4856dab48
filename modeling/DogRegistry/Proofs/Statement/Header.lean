import DogRegistry.Proofs.Statement.Written

/-!
# Headers

A header begins with the words `INSERT INTO` and a table, and it ends with the keyword `VALUES`.
What stands between the table and this keyword is a clause: a list of columns, for instance.  The
tokens of a clause are read as they are wherever the clause stands, so a clause is passed over as a
whole if none of its words is the keyword and none of its quoted texts is left open.

## Main definitions

* `Token.spelling` — what a token is, without its place.
* `IsClause clause` — nothing in a text can be taken for the end of a header.
* `IsPiece piece` — a word, a quoted text or a symbol that can stand in a clause.
* `InsertStatement.Header` — the parts of a header, and `Header.text`, the way it is written.

## Main results

* `Cursor.Reads.exists_between` — tokens are read alike behind blanks and in front of other text.
* `spelling_tokens_append` — the tokens of two texts with blanks between them are those of each.
* `IsClause.afterKeyword?_eq` — a clause is passed over.
* `InsertStatement.parse_header` — only its table and what follows its header matter in a statement.
-/

namespace DogRegistry

open Text

/-! ### Tokens in front of other text -/

/-- What a token is, wherever it stands. -/
def Token.spelling (t : Token) : TokenKind × String :=
  (t.kind, t.text)

theorem Token.isKeyword_eq_of_spelling_eq {t u : Token} (h : t.spelling = u.spelling)
    (keyword : String) : t.isKeyword keyword = u.isKeyword keyword := by
  obtain ⟨hkind, htext⟩ := Prod.mk.inj h
  rw [isKeyword, hkind, htext, isKeyword]

instance (cs : List Char) : Decidable (InQuotes cs) :=
  decidable_of_iff (unquote cs ≠ cs) (by rw [ne_eq, unquote_eq_self_iff, not_not])

/-- `t.Ended` says `t` is not a quoted text that is left open. -/
def Token.Ended (t : Token) : Prop :=
  t.kind = .quoted → InQuotes t.text.toList

instance (t : Token) : Decidable t.Ended :=
  inferInstanceAs (Decidable (t.kind = .quoted → InQuotes t.text.toList))

/-- A token stays what it is in front of other text, unless it is left open or a word goes on. -/
theorem IsLexeme.append {after text tail : List Char} {kind : TokenKind}
    (h : IsLexeme after kind text) (hended : kind = .quoted → InQuotes text)
    (htail : ∀ c, tail.head? = some c → isWordChar c = false) :
    IsLexeme (after ++ tail) kind text := by
  cases h with
  | word hne hword hafter =>
    refine .word hne hword fun c hc => ?_
    cases after with
    | nil => exact htail c hc
    | cons a after => exact hafter c hc
  | closed hquote hinner => exact .closed hquote hinner
  | @unclosed q inner _ hinner _ =>
    -- its second quote would be inside of it
    obtain ⟨q, inner, -, heq⟩ := hended rfl
    obtain ⟨rfl, rfl⟩ := List.cons.inj heq
    exact absurd (List.mem_append_right inner List.mem_cons_self) hinner
  | symbol hblank hword hquote => exact .symbol hblank hword hquote

namespace Cursor

variable {c c' c'' : Cursor} {t : Token} {ts us : List Token} {gap tail : List Char}

/-- The next token is read alike behind blanks and in front of other text. -/
theorem IsNext.exists_between {blanks : List Char} (h : c.IsNext blanks t c') (hended : t.Ended)
    (hgap : ∀ b ∈ gap, isBlank b) (htail : ∀ c, tail.head? = some c → isWordChar c = false)
    (offset : Nat) :
    ∃ t' offset', Cursor.next? ⟨offset, gap ++ (c.rest ++ tail)⟩ =
        some (t', ⟨offset', c'.rest ++ tail⟩) ∧ t'.spelling = t.spelling := by
  have hnext : IsNext ⟨offset, gap ++ (c.rest ++ tail)⟩ (gap ++ blanks)
      ⟨t.kind, t.text, offset + utf8Length (gap ++ blanks),
        offset + utf8Length (gap ++ blanks) + utf8Length t.text.toList⟩
      ⟨offset + utf8Length (gap ++ blanks) + utf8Length t.text.toList, c'.rest ++ tail⟩ :=
    { blank := List.forall_mem_append.2 ⟨hgap, h.blank⟩
      rest_eq := by simp only [h.rest_eq, List.append_assoc]
      isLexeme := h.isLexeme.append hended htail
      start_eq := rfl
      stop_eq := rfl
      offset_eq := rfl }
  exact ⟨_, _, hnext.next?_eq, rfl⟩

/-- So are several tokens. -/
theorem Reads.exists_between (h : c.Reads ts c') (hended : ∀ t ∈ ts, t.Ended)
    (hgap : ∀ b ∈ gap, isBlank b) (htail : ∀ c, tail.head? = some c → isWordChar c = false)
    (offset : Nat) :
    ∃ ts' offset' gap', Reads ⟨offset, gap ++ (c.rest ++ tail)⟩ ts'
        ⟨offset', gap' ++ (c'.rest ++ tail)⟩ ∧
      (∀ b ∈ gap', isBlank b) ∧ ts'.map Token.spelling = ts.map Token.spelling := by
  induction h generalizing offset gap with
  | nil c => exact ⟨[], offset, gap, .nil _, hgap, rfl⟩
  | cons hnext _ ih =>
    obtain ⟨ht, hts⟩ := List.forall_mem_cons.1 hended
    obtain ⟨blanks, hn⟩ := next?_eq_some_iff.1 hnext
    obtain ⟨t', offset', hnext', hspelling⟩ := hn.exists_between ht hgap htail offset
    -- no blanks are put in front of the tokens that follow
    obtain ⟨ts', offset'', gap', hreads, hgap', hspellings⟩ :=
      ih hts (List.forall_mem_nil _) offset'
    refine ⟨t' :: ts', offset'', gap', .cons hnext' hreads, hgap', ?_⟩
    rw [List.map_cons, List.map_cons, hspelling, hspellings]

theorem Reads.append (h : c.Reads ts c') (h' : c'.Reads us c'') : c.Reads (ts ++ us) c'' := by
  induction h with
  | nil => exact h'
  | cons hnext _ ih => exact .cons hnext (ih h')

/-- What is read up to the end are the tokens of a text. -/
theorem Reads.tokens_eq (h : c.Reads ts c') (hend : c'.next? = none) : c.tokens = ts := by
  induction h with
  | nil => exact tokens_of_next?_eq_none hend
  | cons hnext _ ih => rw [tokens_of_next?_eq_some hnext, ih hend]

/-- Other tokens than a keyword are passed over where it is looked for. -/
theorem Reads.afterKeyword?_eq {keyword : String} (h : c.Reads ts c')
    (hts : ∀ t ∈ ts, t.isKeyword keyword = false) :
    c.afterKeyword? keyword = c'.afterKeyword? keyword := by
  induction h with
  | nil => rfl
  | cons hnext _ ih =>
    obtain ⟨ht, hts⟩ := List.forall_mem_cons.1 hts
    rw [afterKeyword?_of_next? hnext, ht, if_neg Bool.false_ne_true, ih hts]

end Cursor

/-- The tokens of two texts with blanks between them are those of each text. -/
theorem spelling_tokens_append {front gap back : String} (hfront : ∀ t ∈ tokens front, t.Ended)
    (hback : ∀ t ∈ tokens back, t.Ended) (hgap : isBlankText gap) (hne : gap ≠ "") :
    (tokens (front ++ gap ++ back)).map Token.spelling =
      (tokens front).map Token.spelling ++ (tokens back).map Token.spelling := by
  have hblank : ∀ b ∈ gap.toList, isBlank b := List.all_eq_true.1 hgap
  have hstop : ∀ c, (gap.toList ++ back.toList).head? = some c → isWordChar c = false :=
    isWordChar_eq_false_of_head?_blanks (mt String.toList_eq_nil_iff.1 hne) hblank
  have hnone : ∀ c, ([] : List Char).head? = some c → isWordChar c = false := by simp
  obtain ⟨c₁, hreads₁, hend₁⟩ := Cursor.exists_reads_tokens (.start front.toList)
  obtain ⟨c₂, hreads₂, hend₂⟩ := Cursor.exists_reads_tokens (.start back.toList)
  obtain ⟨ts₁, offset₁, gap₁, hfirst, hgap₁, hspelling₁⟩ :=
    hreads₁.exists_between hfront (List.forall_mem_nil _) hstop 0
  -- what is left of the first text belongs to the blanks in front of the second one
  have hbetween : ∀ b ∈ gap₁ ++ (c₁.rest ++ gap.toList), isBlank b :=
    List.forall_mem_append.2 ⟨hgap₁, List.forall_mem_append.2
      ⟨Cursor.next?_eq_none_iff.1 hend₁, hblank⟩⟩
  obtain ⟨ts₂, offset₂, gap₂, hsecond, hgap₂, hspelling₂⟩ :=
    hreads₂.exists_between hback hbetween hnone offset₁
  have hreads : (Cursor.start (front ++ gap ++ back).toList).Reads (ts₁ ++ ts₂)
      ⟨offset₂, gap₂ ++ (c₂.rest ++ [])⟩ := by
    refine Cursor.Reads.append ?_ hsecond
    simpa only [Cursor.start, String.toList_append, List.append_assoc, List.nil_append,
      List.append_nil] using hfirst
  have hend : Cursor.next? ⟨offset₂, gap₂ ++ (c₂.rest ++ [])⟩ = none := by
    rw [Cursor.next?_eq_none_iff, List.append_nil]
    exact List.forall_mem_append.2 ⟨hgap₂, Cursor.next?_eq_none_iff.1 hend₂⟩
  rw [tokens, hreads.tokens_eq hend, List.map_append, hspelling₁, hspelling₂, tokens, tokens]

/-! ### Clauses -/

/-- `IsClause clause` says no word of `clause` is the keyword `VALUES`, and none of its quoted texts
is left open. -/
def IsClause (clause : String) : Prop :=
  ∀ t ∈ tokens clause, t.isKeyword "VALUES" = false ∧ t.Ended

instance (clause : String) : Decidable (IsClause clause) :=
  inferInstanceAs (Decidable (∀ t ∈ tokens clause, t.isKeyword "VALUES" = false ∧ t.Ended))

/-- Only the spelling of the tokens matters. -/
theorem isClause_iff {clause : String} :
    IsClause clause ↔ ∀ s ∈ (tokens clause).map Token.spelling,
      (s.1 == .word && equalsIgnoringAsciiCase s.2.toList "VALUES".toList) = false ∧
        (s.1 = .quoted → InQuotes s.2.toList) := by
  rw [List.forall_mem_map]
  rfl

/-- Clauses with blanks between them make a clause. -/
theorem IsClause.append {front gap back : String} (hfront : IsClause front) (hback : IsClause back)
    (hgap : isBlankText gap) (hne : gap ≠ "") : IsClause (front ++ gap ++ back) := by
  have hspelling := spelling_tokens_append (fun t ht => (hfront t ht).2)
    (fun t ht => (hback t ht).2) hgap hne
  rw [isClause_iff, hspelling, List.forall_mem_append]
  exact ⟨isClause_iff.1 hfront, isClause_iff.1 hback⟩

/-- `IsPiece piece` says `piece` is a single token that does not keep a text from being a clause. -/
inductive IsPiece : String → Prop
  /-- A word is one unless it is the keyword, so it may hold the keyword. -/
  | word {word : String} (hne : word ≠ "") (hword : ∀ c ∈ word.toList, isWordChar c)
      (hvalues : ¬ equalsIgnoringAsciiCase word.toList "VALUES".toList) : IsPiece word
  /-- A quoted text is one, whatever it holds. -/
  | quoted {q : Char} {inner : String} (hquote : isQuote q) (hinner : q ∉ inner.toList) :
    IsPiece (String.singleton q ++ inner ++ String.singleton q)
  /-- A symbol is one, a parenthesis for instance. -/
  | symbol {c : Char} (hblank : isBlank c = false) (hword : isWordChar c = false)
      (hquote : isQuote c = false) : IsPiece (String.singleton c)

/-- A text that is a single token. -/
theorem tokens_of_isLexeme {s : String} {kind : TokenKind} (h : IsLexeme [] kind s.toList) :
    tokens s = [⟨kind, s, 0, 0 + utf8Length s.toList⟩] := by
  have hnext : (Cursor.start s.toList).IsNext [] ⟨kind, s, 0, 0 + utf8Length s.toList⟩
      ⟨0 + utf8Length s.toList, []⟩ :=
    { blank := List.forall_mem_nil _
      rest_eq := (List.append_nil _).symm
      isLexeme := h
      start_eq := rfl
      stop_eq := rfl
      offset_eq := rfl }
  exact (Cursor.Reads.cons hnext.next?_eq (.nil _)).tokens_eq rfl

/-- A piece is a clause. -/
theorem IsPiece.isClause {piece : String} (h : IsPiece piece) : IsClause piece := by
  have hnone : ∀ c, ([] : List Char).head? = some c → isWordChar c = false := by simp
  cases h with
  | word hne hword hvalues =>
    have hlexeme : IsLexeme [] .word piece.toList :=
      .word (mt String.toList_eq_nil_iff.1 hne) hword hnone
    rw [IsClause, tokens_of_isLexeme hlexeme, List.forall_mem_singleton]
    exact ⟨Bool.eq_false_iff.2 hvalues, nofun⟩
  | @quoted q inner hquote hinner =>
    have htext : (String.singleton q ++ inner ++ String.singleton q).toList =
        q :: (inner.toList ++ [q]) := by
      simp only [String.toList_append, String.toList_singleton, List.cons_append, List.nil_append]
    have hlexeme :
        IsLexeme [] .quoted (String.singleton q ++ inner ++ String.singleton q).toList := by
      rw [htext]
      exact .closed hquote hinner
    rw [IsClause, tokens_of_isLexeme hlexeme, List.forall_mem_singleton]
    exact ⟨rfl, fun _ => ⟨q, inner.toList, hquote, htext⟩⟩
  | @symbol c hblank hword hquote =>
    have hlexeme : IsLexeme [] .symbol (String.singleton c).toList := by
      rw [String.toList_singleton]
      exact .symbol hblank hword hquote
    rw [IsClause, tokens_of_isLexeme hlexeme, List.forall_mem_singleton]
    exact ⟨rfl, nofun⟩

/-- Several pieces are one, too, if they are written with spaces between them. -/
theorem isClause_intercalate {pieces : List String} (h : ∀ piece ∈ pieces, IsPiece piece) :
    IsClause (" ".intercalate pieces) := by
  induction pieces with
  | nil => decide +kernel
  | cons piece pieces ih =>
    obtain ⟨hpiece, hpieces⟩ := List.forall_mem_cons.1 h
    cases pieces with
    | nil =>
      rw [String.intercalate_singleton]
      exact hpiece.isClause
    | cons next pieces =>
      rw [String.intercalate_cons_cons]
      exact hpiece.isClause.append (ih hpieces) (by decide) (by decide)

/-- A clause is passed over where the keyword is looked for. -/
theorem IsClause.afterKeyword?_eq {clause : String} (h : IsClause clause) {gap tail : List Char}
    (hgap : ∀ b ∈ gap, isBlank b) (htail : ∀ c, tail.head? = some c → isWordChar c = false)
    (offset : Nat) :
    ∃ offset' blanks, (∀ b ∈ blanks, isBlank b) ∧
      Cursor.afterKeyword? "VALUES" ⟨offset, gap ++ (clause.toList ++ tail)⟩ =
        Cursor.afterKeyword? "VALUES" ⟨offset', blanks ++ tail⟩ := by
  obtain ⟨c, hreads, hend⟩ := Cursor.exists_reads_tokens (.start clause.toList)
  obtain ⟨ts, offset', gap', hreads', hgap', hspelling⟩ :=
    hreads.exists_between (fun t ht => (h t ht).2) hgap htail offset
  have hts : ∀ t ∈ ts, t.isKeyword "VALUES" = false := by
    intro t ht
    have hmem : t.spelling ∈ (tokens clause).map Token.spelling :=
      hspelling ▸ List.mem_map_of_mem ht
    obtain ⟨u, hu, heq⟩ := List.mem_map.1 hmem
    rw [← Token.isKeyword_eq_of_spelling_eq heq]
    exact (h u hu).1
  refine ⟨offset', gap' ++ c.rest, ?_, ?_⟩
  · exact List.forall_mem_append.2 ⟨hgap', Cursor.next?_eq_none_iff.1 hend⟩
  · rw [List.append_assoc]
    exact hreads'.afterKeyword?_eq hts

/-! ### Headers -/

namespace InsertStatement

/-- The parts of a header. -/
structure Header where
  /-- The words `INSERT INTO` in any case. -/
  keywords : String
  /-- The blanks in front of the table. -/
  gap : String
  /-- The table. -/
  table : String
  /-- What stands between the table and the last keyword. -/
  clause : String
  /-- The keyword `VALUES` in any case. -/
  values : String
  keywords_eq : equalsIgnoringAsciiCase keywords.toList "INSERT INTO".toList
  isBlankText_gap : isBlankText gap
  gap_ne_empty : gap ≠ ""
  isWordChar_table : ∀ c ∈ table.toList, isWordChar c
  table_ne_empty : table ≠ ""
  isClause_clause : IsClause clause
  values_eq : equalsIgnoringAsciiCase values.toList "VALUES".toList

/-- Two words that differ from `INSERT INTO` at most in case. -/
theorem exists_insert_into {keywords : List Char}
    (h : equalsIgnoringAsciiCase keywords "INSERT INTO".toList) :
    ∃ insert space into, keywords = insert ++ space :: into ∧
      equalsIgnoringAsciiCase insert "INSERT".toList ∧ isBlank space ∧
      equalsIgnoringAsciiCase into "INTO".toList := by
  have hcut : keywords.map Char.toLower =
      "INSERT".toList.map Char.toLower ++ ' ' :: "INTO".toList.map Char.toLower := eq_of_beq h
  obtain ⟨insert, rest, rfl, hinsert, hrest⟩ := List.map_eq_append_iff.1 hcut
  obtain ⟨space, into, rfl, hspace, hinto⟩ := List.map_eq_cons_iff.1 hrest
  refine ⟨insert, space, into, rfl, beq_iff_eq.2 hinsert, isBlank_of_toLower ?_, beq_iff_eq.2 hinto⟩
  rw [hspace]
  rfl

namespace Header

/-- The header the way it is written. -/
def text (h : Header) : String :=
  h.keywords ++ h.gap ++ h.table ++ " " ++ h.clause ++ " " ++ h.values

theorem toList_text (h : Header) :
    h.text.toList = h.keywords.toList ++ (h.gap.toList ++ (h.table.toList ++
      ([' '] ++ (h.clause.toList ++ ([' '] ++ h.values.toList))))) := by
  simp [text, String.toList_append]

/-- A header begins as an insert statement does. -/
theorem beginsInsert_append (h : Header) (rest : List Char) :
    beginsInsert (h.text.toList ++ rest) := by
  have hlength : h.keywords.toList.length = "INSERT INTO".length := by
    have hmap := congrArg List.length (eq_of_beq h.keywords_eq)
    rwa [List.length_map, List.length_map] at hmap
  rw [beginsInsert, toList_text, List.append_assoc, ← hlength, List.take_left']
  · exact h.keywords_eq
  · rfl

/-- Behind the table the clause is passed over, up to the last keyword. -/
theorem exists_afterKeyword? (h : Header) {c : Cursor} {rest : List Char}
    (hc : c.rest = [' '] ++ (h.clause.toList ++ ([' '] ++ (h.values.toList ++ rest))))
    (hrest : ∀ c, rest.head? = some c → isWordChar c = false) :
    ∃ c', c.afterKeyword? "VALUES" = some c' ∧ c'.rest = rest := by
  obtain ⟨place, behind⟩ := c
  obtain rfl : behind = _ := hc
  have hspace : ∀ b ∈ [' '], isBlank b := List.forall_mem_singleton.2 rfl
  obtain ⟨offset, blanks, hblanks, hclause⟩ := h.isClause_clause.afterKeyword?_eq hspace
    (isWordChar_eq_false_of_head?_space (h.values.toList ++ rest)) place
  have hbehind : (⟨offset, blanks ++ ([' '] ++ (h.values.toList ++ rest))⟩ : Cursor).rest =
      (blanks ++ [' ']) ++ (h.values.toList ++ rest) :=
    (List.append_assoc blanks [' '] _).symm
  obtain ⟨t, c', hnext, hkind, hword, hc'⟩ := Cursor.exists_next?_word hbehind
    (List.forall_mem_append.2 ⟨hblanks, hspace⟩)
    (ne_nil_of_equalsIgnoringAsciiCase h.values_eq (by decide))
    (isWordChar_of_equalsIgnoringAsciiCase h.values_eq (by decide)) hrest
  have hkeyword : t.isKeyword "VALUES" := Token.isKeyword_of_word hkind hword h.values_eq
  refine ⟨c', ?_, hc'⟩
  rw [hclause, Cursor.afterKeyword?_of_next? hnext, if_pos hkeyword]

/-- A header is read up to its last keyword. -/
theorem header?_append (h : Header) {rest : List Char}
    (hrest : ∀ c, rest.head? = some c → isWordChar c = false) :
    header? (h.text.toList ++ rest) = some (h.table, rest) := by
  obtain ⟨insert, space, into, hkeywords, hinsert, hspace, hinto⟩ :=
    exists_insert_into h.keywords_eq
  have htext : h.text.toList ++ rest = insert ++ ([space] ++ (into ++ (h.gap.toList ++
      (h.table.toList ++
        ([' '] ++ (h.clause.toList ++ ([' '] ++ (h.values.toList ++ rest)))))))) := by
    rw [toList_text, hkeywords]
    simp
  obtain ⟨c, hc, hheader⟩ := header?_words hinsert (List.cons_ne_nil space [])
    (List.forall_mem_singleton.2 hspace) hinto (mt String.toList_eq_nil_iff.1 h.gap_ne_empty)
    (List.all_eq_true.1 h.isBlankText_gap) (mt String.toList_eq_nil_iff.1 h.table_ne_empty)
    h.isWordChar_table
    (isWordChar_eq_false_of_head?_space (h.clause.toList ++ ([' '] ++ (h.values.toList ++ rest))))
  obtain ⟨c', hvalues, hc'⟩ := h.exists_afterKeyword? hc hrest
  rw [htext, hheader, hvalues, Option.map_some, hc', String.ofList_toList]

/-- A header neither begins nor ends with a blank. -/
theorem trimChars_append (h : Header) (rest : List Char) :
    trimChars (h.text.toList ++ rest) = h.text.toList ++ trimCharsEnd rest := by
  have hkeywords : h.keywords.toList ≠ [] :=
    ne_nil_of_equalsIgnoringAsciiCase h.keywords_eq (by decide)
  have hvalues : h.values.toList ≠ [] :=
    ne_nil_of_equalsIgnoringAsciiCase h.values_eq (by decide)
  refine Text.trimChars_append ?_ (fun c hc => ?_) (fun c hc => ?_) rest
  · rw [toList_text]
    exact List.append_ne_nil_of_left_ne_nil hkeywords _
  · obtain ⟨insert, space, into, heq, hinsert, -, -⟩ := exists_insert_into h.keywords_eq
    have hne : insert ≠ [] := ne_nil_of_equalsIgnoringAsciiCase hinsert (by decide)
    rw [toList_text, heq, List.append_assoc, List.head?_append_of_ne_nil _ hne] at hc
    exact isBlank_eq_false_of_isWordChar
      (isWordChar_of_equalsIgnoringAsciiCase hinsert (by decide) c (List.mem_of_head? hc))
  · have hlast : h.text.toList.getLast? = h.values.toList.getLast? := by
      have hcut : h.text.toList = (h.keywords.toList ++ (h.gap.toList ++ (h.table.toList ++
          ([' '] ++ (h.clause.toList ++ [' ']))))) ++ h.values.toList := by
        rw [toList_text]
        simp
      rw [hcut, List.getLast?_append_of_ne_nil _ hvalues]
    rw [hlast] at hc
    exact isBlank_eq_false_of_isWordChar (isWordChar_of_equalsIgnoringAsciiCase h.values_eq
      (by decide) c (List.mem_of_getLast? hc))

end Header

/-- Blanks at the end of a text hold no tuples. -/
theorem tuplesOfChars_trimCharsEnd (cs : List Char) :
    tuplesOfChars (trimCharsEnd cs) = tuplesOfChars cs := by
  obtain ⟨blanks, heq, hblanks⟩ := exists_trimCharsEnd_append cs
  have hclosing : ')' ∉ blanks := fun hmem => absurd (hblanks _ hmem) (by decide)
  conv_rhs => rw [heq]
  rw [tuplesOfChars, tuplesOfChars, groups_append_of_closing_not_mem hclosing]

/-- Only the table of its header and the tuples behind it matter in a statement, in whatever case
the keywords are written, whatever blanks stand in front of the table and around the statement, and
whatever clause stands behind the table.  Every list of words, quoted texts and symbols is such a
clause if the keyword `VALUES` is not one of the words.  So the keyword may stand in quotes or in a
longer word, and parentheses in a clause hold no tuples. -/
theorem parse_header (h : Header) {before after rest : String} (hbefore : isBlankText before)
    (hafter : isBlankText after)
    (hrest : ∀ c, rest.toList.head? = some c → isWordChar c = false) :
    parse (before ++ (h.text ++ rest) ++ after) =
        (if DogRegistry.tuples rest = [] then .error .noTuples
          else .ok ⟨h.table, DogRegistry.tuples rest⟩) ∧
      ∀ pieces : List String, (∀ piece ∈ pieces, IsPiece piece) →
        IsClause (" ".intercalate pieces) := by
  refine ⟨?_, fun pieces hpieces => isClause_intercalate hpieces⟩
  have htrim : trimChars (before ++ (h.text ++ rest) ++ after).toList =
      h.text.toList ++ trimCharsEnd rest.toList := by
    rw [String.toList_append, String.toList_append, List.append_assoc,
      trimChars_between_blanks (List.all_eq_true.1 hbefore) (List.all_eq_true.1 hafter),
      String.toList_append, h.trimChars_append]
  have hstop : ∀ c, (trimCharsEnd rest.toList).head? = some c → isWordChar c = false := by
    intro c hc
    refine hrest c ?_
    obtain ⟨blanks, heq, -⟩ := exists_trimCharsEnd_append rest.toList
    rw [heq, List.head?_append, hc]
    rfl
  rw [parse, htrim, parseChars, h.beginsInsert_append, h.header?_append hstop,
    DogRegistry.tuples]
  simp only [tuplesOfChars_trimCharsEnd]
  rfl

/-- The keyword in quotes, with a group behind it, and in a longer word, a group in the clause, and
a quote in the group behind the header. -/
theorem parse_header_keywordInClause :
    let header : Header :=
      ⟨"Insert INTO", "\n\u00a0", "dueños", "(id) 'VALUES (\"1\")' XVALUES \"\"", "vaLues",
        by decide, by decide, by decide, List.all_eq_true.1 (by decide), by decide,
        by decide +kernel, by decide⟩
    let text := "Insert INTO\n\u00a0dueños (id) 'VALUES (\"1\")' XVALUES \"\" vaLues('2', Ana\")"
    let pieces := ["'VALUES ('", "(", "XVALUES"]
    "\t" ++ (header.text ++ "('2', Ana\")") ++ "\n" = "\t" ++ text ++ "\n" ∧
      isBlankText "\t" ∧ isBlankText "\n" ∧
      (∀ c, "('2', Ana\")".toList.head? = some c → isWordChar c = false) ∧
      parse ("\t" ++ text ++ "\n") = .ok ⟨"dueños", [["2", "Ana\""]]⟩ ∧
      (∀ piece ∈ pieces, IsPiece piece) ∧ IsClause (" ".intercalate pieces) := by
  intro header text pieces
  have htext : "\t" ++ (header.text ++ "('2', Ana\")") ++ "\n" = "\t" ++ text ++ "\n" := by
    decide +kernel
  have htab : isBlankText "\t" := by decide
  have hbreak : isBlankText "\n" := by decide
  have hrest : ∀ c, "('2', Ana\")".toList.head? = some c → isWordChar c = false := by
    intro c hc
    obtain rfl := Option.some.inj hc
    decide
  have hpieces : ∀ piece ∈ pieces, IsPiece piece := by
    refine List.forall_mem_cons.2 ⟨?_, List.forall_mem_cons.2 ⟨?_, List.forall_mem_singleton.2 ?_⟩⟩
    · exact IsPiece.quoted (q := '\'') rfl (by decide : '\'' ∉ "VALUES (".toList)
    · exact IsPiece.symbol (c := '(') (by decide) (by decide) (by decide)
    · exact IsPiece.word (by decide) (List.all_eq_true.1 (by decide)) (by decide)
  obtain ⟨hparse, hclause⟩ := parse_header header htab hbreak hrest
  have htuples : DogRegistry.tuples "('2', Ana\")" = [["2", "Ana\""]] := by decide +kernel
  rw [htext, htuples, if_neg (List.cons_ne_nil _ _)] at hparse
  exact ⟨htext, htab, hbreak, hrest, hparse, hpieces, hclause pieces hpieces⟩

-- a quote that is left open takes in the keyword behind the clause
example : ¬ IsClause "(a, 'b)" := by
  decide +kernel

end InsertStatement

end DogRegistry
