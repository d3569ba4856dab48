import DogRegistry.Proofs.Basic
import DogRegistry.Proofs.Text.Word
import DogRegistry.Statement.Token
import Mathlib.Data.String.Basic

/-!
# The tokens of a text

Tokens are read one by one until only blanks are left.  Nothing else than blanks is passed over, and
every token is as long as its kind allows: a word goes on until another character follows, and a
quoted text until its quote occurs again.

## Main definitions

* `IsLexeme after kind text` — a token of some kind is written as `text`, in front of `after`.
* `Cursor.IsNext` — what is read with one token: blanks, the token, and the place behind it.
* `Cursor.Reads c ts c'` — reading the tokens `ts` leads from one place to another.
* `Token.IsIn s` — a token covers a part of `s`, as its span says.

## Main results

* `isLexeme_lexeme`, `IsLexeme.lexeme_eq` — what is read at the front of a text is the lexeme there.
* `Cursor.next?_eq_some_iff`, `Cursor.next?_eq_none_iff` — how one token is read, and when none is.
* `Cursor.exists_reads_tokens` — reading comes to an end, and only blanks are left there.
* `tokens_lossless` — the tokens of a text cover all of it but blanks.
-/

namespace DogRegistry

open Text

/-! ### Lengths in bytes -/

theorem utf8Length_append (cs ds : List Char) :
    utf8Length (cs ++ ds) = utf8Length cs + utf8Length ds := by
  induction cs with
  | nil => rw [List.nil_append, utf8Length, Nat.zero_add]
  | cons c cs ih => rw [List.cons_append, utf8Length, utf8Length, ih, Nat.add_assoc]

theorem utf8Length_eq_utf8ByteSize (cs : List Char) :
    utf8Length cs = (String.ofList cs).utf8ByteSize := by
  induction cs with
  | nil => rfl
  | cons c cs ih =>
    rw [String.ofList_cons, String.utf8ByteSize_append, String.utf8ByteSize_singleton, utf8Length,
      ih]

theorem utf8Length_toList (s : String) : utf8Length s.toList = s.utf8ByteSize := by
  rw [utf8Length_eq_utf8ByteSize, String.ofList_toList]

/-- The part of a text between two characters, by the bytes that precede them. -/
theorem extract_eq_of_toList_eq {s text : String} {pre post : List Char}
    (h : s.toList = pre ++ (text.toList ++ post)) :
    String.Pos.Raw.extract s ⟨utf8Length pre⟩ ⟨utf8Length (pre ++ text.toList)⟩ = text := by
  have hlength (cs : List Char) : utf8Length cs = String.utf8Len cs := by
    rw [utf8Length_eq_utf8ByteSize, String.utf8ByteSize_ofList]
  have hextract := String.extract_of_valid pre text.toList post
  rwa [List.append_assoc, ← h, String.ofList_toList, String.ofList_toList, ← hlength, ← hlength,
    ← utf8Length_append] at hextract

/-! ### One token -/

/-- No quote is blank. -/
theorem isBlank_eq_false_of_isQuote {q : Char} (h : isQuote q) : isBlank q = false := by
  rw [isQuote, Bool.or_eq_true, beq_iff_eq, beq_iff_eq] at h
  rcases h with rfl | rfl
  · decide
  · decide

/-- No quote may stand in a word. -/
theorem isWordChar_eq_false_of_isQuote {q : Char} (h : isQuote q) : isWordChar q = false := by
  rw [isQuote, Bool.or_eq_true, beq_iff_eq, beq_iff_eq] at h
  rcases h with rfl | rfl
  · decide
  · decide

/-- `IsLexeme after kind text` says a token of the given kind is written as `text` where `after`
follows. -/
inductive IsLexeme (after : List Char) : TokenKind → List Char → Prop
  /-- A word consists of word characters and goes on until another character follows. -/
  | word {cs : List Char} (hne : cs ≠ []) (hword : ∀ c ∈ cs, isWordChar c)
      (hafter : ∀ c, after.head? = some c → isWordChar c = false) : IsLexeme after .word cs
  /-- A quoted text ends with the next occurrence of the quote that it begins with. -/
  | closed {q : Char} {inner : List Char} (hquote : isQuote q) (hinner : q ∉ inner) :
    IsLexeme after .quoted (q :: (inner ++ [q]))
  /-- If there is none, it ends with the source. -/
  | unclosed {q : Char} {inner : List Char} (hquote : isQuote q) (hinner : q ∉ inner)
      (hafter : after = []) : IsLexeme after .quoted (q :: inner)
  /-- A symbol is a single character of no other class. -/
  | symbol {c : Char} (hblank : isBlank c = false) (hword : isWordChar c = false)
      (hquote : isQuote c = false) : IsLexeme after .symbol [c]

namespace IsLexeme

variable {after text : List Char} {kind : TokenKind}

/-- A token begins with a character that is not blank. -/
theorem exists_cons (h : IsLexeme after kind text) :
    ∃ c cs, text = c :: cs ∧ isBlank c = false := by
  cases h with
  | word hne hword _ =>
    obtain ⟨c, cs, rfl⟩ := List.exists_cons_of_ne_nil hne
    exact ⟨c, cs, rfl, isBlank_eq_false_of_isWordChar (hword c List.mem_cons_self)⟩
  | closed hquote _ => exact ⟨_, _, rfl, isBlank_eq_false_of_isQuote hquote⟩
  | unclosed hquote _ _ => exact ⟨_, _, rfl, isBlank_eq_false_of_isQuote hquote⟩
  | symbol hblank _ _ => exact ⟨_, _, rfl, hblank⟩

/-- No word goes on behind a token. -/
theorem isWordChar_eq_false (h : IsLexeme after kind text) {b r : Char}
    (hb : text.getLast? = some b) (hr : after.head? = some r) (hword : isWordChar b) :
    isWordChar r = false := by
  cases h with
  | word _ _ hafter => exact hafter r hr
  | @closed q inner hquote _ =>
    rw [← List.cons_append, List.getLast?_concat] at hb
    obtain rfl := Option.some.inj hb
    exact absurd hword (Bool.eq_false_iff.1 (isWordChar_eq_false_of_isQuote hquote))
  | unclosed _ _ hafter =>
    rw [hafter] at hr
    exact absurd hr (by simp)
  | symbol _ hnot _ =>
    obtain rfl := Option.some.inj hb
    exact absurd hword (Bool.eq_false_iff.1 hnot)

end IsLexeme

/-- The quote at the front of a text and what it encloses. -/
theorem lexeme_quote {q : Char} {inner : List Char} (hquote : isQuote q) (hinner : q ∉ inner)
    (after : List Char) :
    lexeme q (inner ++ q :: after) = ⟨.quoted, q :: (inner ++ [q]), after⟩ := by
  have hne : ∀ c ∈ inner, c != q := fun c hc => bne_iff_ne.2 fun heq => hinner (heq ▸ hc)
  have hstop : ∀ c, (q :: after).head? = some c → (c != q) = false := by
    intro c hc
    obtain rfl := Option.some.inj hc
    exact bne_self_eq_false q
  obtain ⟨htake, hdrop⟩ := takeWhile_append_of_stop hne hstop
  have hword : ¬ isWordChar q := Bool.eq_false_iff.1 (isWordChar_eq_false_of_isQuote hquote)
  rw [lexeme, if_neg hword, if_pos hquote, htake, hdrop]
  rfl

/-- An opening quote that does not occur again encloses all that follows. -/
theorem lexeme_quote_of_not_mem {q : Char} {inner : List Char} (hquote : isQuote q)
    (hinner : q ∉ inner) : lexeme q inner = ⟨.quoted, q :: inner, []⟩ := by
  have hne : ∀ c ∈ inner, c != q := fun c hc => bne_iff_ne.2 fun heq => hinner (heq ▸ hc)
  have htake : inner.takeWhile (· != q) = inner := List.takeWhile_eq_self_iff.2 hne
  have hdrop : inner.dropWhile (· != q) = [] := List.dropWhile_eq_nil_iff.2 hne
  have hword : ¬ isWordChar q := Bool.eq_false_iff.1 (isWordChar_eq_false_of_isQuote hquote)
  rw [lexeme, if_neg hword, if_pos hquote, htake, hdrop, List.take_nil, List.append_nil,
    List.drop_nil]

theorem lexeme_word {w : Char} {ws rest : List Char} (hword : ∀ c ∈ w :: ws, isWordChar c)
    (hrest : ∀ c, rest.head? = some c → isWordChar c = false) :
    lexeme w (ws ++ rest) = ⟨.word, w :: ws, rest⟩ := by
  obtain ⟨hw, hws⟩ := List.forall_mem_cons.1 hword
  obtain ⟨htake, hdrop⟩ := takeWhile_append_of_stop hws hrest
  rw [lexeme, if_pos hw, htake, hdrop]

/-- What is read at the front of a text is a lexeme. -/
theorem isLexeme_lexeme {c : Char} (hblank : isBlank c = false) (cs : List Char) :
    IsLexeme (lexeme c cs).rest (lexeme c cs).kind (lexeme c cs).text := by
  by_cases hword : isWordChar c
  · have hafter : ∀ d, (cs.dropWhile isWordChar).head? = some d → isWordChar d = false := by
      intro d hd
      have hnot := List.head?_dropWhile_not isWordChar cs
      rwa [hd] at hnot
    rw [lexeme, if_pos hword]
    refine .word (List.cons_ne_nil c _) ?_ hafter
    exact List.forall_mem_cons.2 ⟨hword, fun d hd => List.mem_takeWhile_imp hd⟩
  · by_cases hquote : isQuote c
    · by_cases hmem : c ∈ cs
      · obtain ⟨inner, after, rfl, hinner⟩ := List.eq_append_cons_of_mem hmem
        rw [lexeme_quote hquote hinner]
        exact .closed hquote hinner
      · rw [lexeme_quote_of_not_mem hquote hmem]
        exact .unclosed hquote hmem rfl
    · rw [lexeme, if_neg hword, if_neg hquote]
      exact .symbol hblank (Bool.eq_false_iff.2 hword) (Bool.eq_false_iff.2 hquote)

/-- A lexeme at the front of a text is what is read there. -/
theorem IsLexeme.lexeme_eq {after cs : List Char} {c : Char} {kind : TokenKind}
    (h : IsLexeme after kind (c :: cs)) : lexeme c (cs ++ after) = ⟨kind, c :: cs, after⟩ := by
  cases h with
  | word _ hword hafter => exact lexeme_word hword hafter
  | @closed _ inner hquote hinner =>
    rw [List.append_assoc]
    exact lexeme_quote hquote hinner after
  | unclosed hquote hinner hafter =>
    rw [hafter, List.append_nil]
    exact lexeme_quote_of_not_mem hquote hinner
  | symbol _ hword hquote =>
    rw [List.nil_append, lexeme, if_neg (Bool.eq_false_iff.1 hword),
      if_neg (Bool.eq_false_iff.1 hquote)]

/-! ### The next token -/

namespace Cursor

/-- `c.IsNext blanks t c'` says the next token after `c` is `t`, behind some blanks, and `c'` is the
place behind it. -/
structure IsNext (c : Cursor) (blanks : List Char) (t : Token) (c' : Cursor) : Prop where
  /-- Nothing but blanks is passed over. -/
  blank : ∀ b ∈ blanks, isBlank b
  /-- The token stands between the blanks and the place behind it. -/
  rest_eq : c.rest = blanks ++ (t.text.toList ++ c'.rest)
  /-- The text of the token is of its kind. -/
  isLexeme : IsLexeme c'.rest t.kind t.text.toList
  /-- The token begins behind the blanks. -/
  start_eq : t.start = c.offset + utf8Length blanks
  /-- The token is as long as its text. -/
  stop_eq : t.stop = t.start + utf8Length t.text.toList
  /-- The place behind the token is the one where it ends. -/
  offset_eq : c'.offset = t.stop

variable {c c' c'' : Cursor} {t : Token} {ts : List Token}

theorem IsNext.next?_eq {blanks : List Char} (h : c.IsNext blanks t c') :
    c.next? = some (t, c') := by
  obtain ⟨kind, text, start, stop⟩ := t
  obtain ⟨offset, rest⟩ := c'
  obtain ⟨hblank, hrest, hlexeme, hstart, hstop, hoffset⟩ := h
  dsimp only at hrest hlexeme hstart hstop hoffset
  obtain ⟨ch, cs, htext, hch⟩ := hlexeme.exists_cons
  obtain rfl : text = String.ofList (ch :: cs) := by rw [← htext, String.ofList_toList]
  rw [String.toList_ofList] at hrest hlexeme hstop
  obtain ⟨htake, hdrop⟩ : c.rest.takeWhile isBlank = blanks ∧
      c.rest.dropWhile isBlank = ch :: (cs ++ rest) := by
    rw [hrest]
    refine takeWhile_append_of_stop hblank fun b hb => ?_
    obtain rfl := Option.some.inj hb
    exact hch
  rw [next?]
  simp only [hdrop, htake, hlexeme.lexeme_eq]
  rw [← hstart, ← hstop, ← hoffset]

/-- How the next token is read. -/
theorem next?_eq_some_iff : c.next? = some (t, c') ↔ ∃ blanks, c.IsNext blanks t c' := by
  refine ⟨fun h => ?_, fun ⟨_, h⟩ => h.next?_eq⟩
  rw [next?] at h
  split at h
  next => exact absurd h (by simp)
  next ch cs hdrop =>
    obtain ⟨rfl, rfl⟩ := Prod.mk.inj (Option.some.inj h)
    have hch : isBlank ch = false := by
      have hnot := List.head?_dropWhile_not isBlank c.rest
      rwa [hdrop] at hnot
    refine ⟨c.rest.takeWhile isBlank, fun b hb => List.mem_takeWhile_imp hb, ?_, ?_, rfl, ?_, rfl⟩
    · dsimp only
      rw [String.toList_ofList, lexeme_append, ← hdrop, List.takeWhile_append_dropWhile]
    · dsimp only
      rw [String.toList_ofList]
      exact isLexeme_lexeme hch cs
    · dsimp only
      rw [String.toList_ofList]

/-- There is no next token where only blanks follow. -/
theorem next?_eq_none_iff : c.next? = none ↔ ∀ b ∈ c.rest, isBlank b := by
  rw [← dropWhile_isBlank_eq_nil_iff, next?]
  split
  next h => simp [h]
  next h => simp [h]

/-! ### Reading on -/

/-- `c.Reads ts c'` says that reading on from `c` gives the tokens `ts` and leads to `c'`. -/
inductive Reads : Cursor → List Token → Cursor → Prop
  /-- Nothing is read. -/
  | nil (c : Cursor) : Reads c [] c
  /-- A token is read, and others after it. -/
  | cons {c c' c'' : Cursor} {t : Token} {ts : List Token} (hnext : c.next? = some (t, c'))
      (hreads : Reads c' ts c'') : Reads c (t :: ts) c''

theorem tokens_of_next?_eq_none (h : c.next? = none) : c.tokens = [] := by
  rw [tokens]
  split
  next => rfl
  next hsome => exact absurd (h.symm.trans hsome) (by simp)

theorem tokens_of_next?_eq_some (h : c.next? = some (t, c')) : c.tokens = t :: c'.tokens := by
  rw [tokens]
  split
  next hnone => exact absurd (hnone.symm.trans h) (by simp)
  next hsome =>
    obtain ⟨rfl, rfl⟩ := Prod.mk.inj (Option.some.inj (hsome.symm.trans h))
    rfl

/-- Reading on comes to an end, where nothing but blanks is left. -/
theorem exists_reads_tokens (c : Cursor) : ∃ c', c.Reads c.tokens c' ∧ c'.next? = none := by
  cases hnext : c.next? with
  | none =>
    rw [tokens_of_next?_eq_none hnext]
    exact ⟨c, .nil c, hnext⟩
  | some read =>
    obtain ⟨t, c₁⟩ := read
    have hshorter := next?_rest_length_lt hnext
    obtain ⟨c₂, hreads, hend⟩ := exists_reads_tokens c₁
    rw [tokens_of_next?_eq_some hnext]
    exact ⟨c₂, .cons hnext hreads, hend⟩
termination_by c.rest.length

/-- The tokens that are read lie behind the place where reading begins, one behind the other. -/
theorem Reads.ordered (h : c.Reads ts c') :
    (∀ t ∈ ts, c.offset ≤ t.start) ∧ ts.Pairwise fun a b => a.stop ≤ b.start := by
  induction h with
  | nil c => exact ⟨List.forall_mem_nil _, List.Pairwise.nil⟩
  | @cons c c' c'' t ts hnext _ ih =>
    obtain ⟨blanks, hn⟩ := next?_eq_some_iff.1 hnext
    obtain ⟨hbehind, hpairwise⟩ := ih
    rw [hn.offset_eq] at hbehind
    refine ⟨List.forall_mem_cons.2 ⟨?_, fun u hu => ?_⟩, List.pairwise_cons.2 ⟨hbehind, hpairwise⟩⟩
    · rw [hn.start_eq]
      exact Nat.le_add_right _ _
    · have hstop := hbehind u hu
      rw [hn.stop_eq, hn.start_eq] at hstop
      omega

/-- What is not blank belongs to a token if reading goes on to the end. -/
theorem Reads.covers (h : c.Reads ts c') (hend : c'.next? = none) {pre post : List Char} {ch : Char}
    (hrest : c.rest = pre ++ ch :: post) (hch : isBlank ch = false) :
    ∃ t ∈ ts, t.start ≤ c.offset + utf8Length pre ∧
      c.offset + utf8Length (pre ++ [ch]) ≤ t.stop := by
  have hnot : ¬ isBlank ch := Bool.eq_false_iff.1 hch
  induction h generalizing pre with
  | nil c =>
    have hmem : ch ∈ c.rest := by
      rw [hrest]
      exact List.mem_append_right pre List.mem_cons_self
    exact absurd (next?_eq_none_iff.1 hend ch hmem) hnot
  | @cons c c' c'' t ts hnext _ ih =>
    obtain ⟨blanks, hn⟩ := next?_eq_some_iff.1 hnext
    have hstart := hn.start_eq
    have hstop := hn.stop_eq
    have hoffset := hn.offset_eq
    rcases exists_of_append_eq_append_cons (hn.rest_eq.symm.trans hrest) with
      ⟨pre, rfl, htext⟩ | ⟨rest, hblanks⟩
    · rcases exists_of_append_eq_append_cons htext with ⟨pre, rfl, hbehind⟩ | ⟨rest, hinside⟩
      · -- the character stands behind the token
        obtain ⟨u, hu, hle, hge⟩ := ih hend hbehind
        simp only [utf8Length_append] at hge ⊢
        exact ⟨u, List.mem_cons_of_mem t hu, by omega, by omega⟩
      · -- or inside of it
        simp only [hinside, utf8Length_append, utf8Length] at hstop ⊢
        exact ⟨t, List.mem_cons_self, by omega, by omega⟩
    · have hmem : ch ∈ blanks := by
        rw [hblanks]
        exact List.mem_append_right pre List.mem_cons_self
      exact absurd (hn.blank ch hmem) hnot

/-! ### Tokens in their source -/

/-- `c.After before` says the place `c` lies behind `before` and not inside a word. -/
structure After (before : List Char) (c : Cursor) : Prop where
  /-- The place is given by the bytes that precede it. -/
  offset_eq : c.offset = utf8Length before
  /-- No word goes on. -/
  boundary : ∀ b r, before.getLast? = some b → c.rest.head? = some r → isWordChar b →
    isWordChar r = false

theorem after_start (cs : List Char) : (start cs).After [] :=
  ⟨rfl, fun _ _ hb => absurd hb (by simp)⟩

/-- Behind blanks no word goes on. -/
theorem After.blanks {before blanks rest : List Char} (h : c.After before)
    (hblanks : ∀ b ∈ blanks, isBlank b) (hrest : c.rest = blanks ++ rest) {b r : Char}
    (hb : (before ++ blanks).getLast? = some b) (hr : rest.head? = some r) (hword : isWordChar b) :
    isWordChar r = false := by
  rcases List.eq_nil_or_concat blanks with rfl | ⟨init, last, rfl⟩
  · rw [List.append_nil] at hb
    rw [List.nil_append] at hrest
    exact h.boundary b r hb (hrest ▸ hr) hword
  · rw [List.concat_eq_append] at hb hblanks
    rw [← List.append_assoc, List.getLast?_concat] at hb
    obtain rfl := Option.some.inj hb
    have hblank := hblanks last (by simp)
    rw [isBlank_eq_false_of_isWordChar hword] at hblank
    exact absurd hblank Bool.false_ne_true

/-- Reading a token leads to a place behind it. -/
theorem After.next {before blanks : List Char} (h : c.After before) (hn : c.IsNext blanks t c') :
    c'.After (before ++ blanks ++ t.text.toList) := by
  refine ⟨?_, fun b r hb hr hword => ?_⟩
  · rw [hn.offset_eq, hn.stop_eq, hn.start_eq, h.offset_eq, utf8Length_append, utf8Length_append]
  · obtain ⟨ch, cs, htext, -⟩ := hn.isLexeme.exists_cons
    have hlast : t.text.toList.getLast? = some b := by
      rw [htext, List.getLast?_append, List.getLast?_cons] at hb
      rw [htext, List.getLast?_cons]
      exact hb
    exact hn.isLexeme.isWordChar_eq_false hlast hr hword

/-- No word goes on in front of a word that is read. -/
theorem After.isWordChar_eq_false {before blanks : List Char} (h : c.After before)
    (hn : c.IsNext blanks t c') (hkind : t.kind = .word) {b : Char}
    (hb : (before ++ blanks).getLast? = some b) : isWordChar b = false := by
  rw [Bool.eq_false_iff]
  intro hword
  have hlexeme := hn.isLexeme
  rw [hkind] at hlexeme
  obtain ⟨ch, cs, htext, -⟩ := hlexeme.exists_cons
  have hfirst : (t.text.toList ++ c'.rest).head? = some ch := by rw [htext]; rfl
  have hnot := h.blanks hn.blank hn.rest_eq hb hfirst hword
  generalize t.text.toList = text at hlexeme htext
  cases hlexeme with
  | word _ hchars _ => exact Bool.eq_false_iff.1 hnot (hchars ch (htext ▸ List.mem_cons_self))

/-- Where the tokens that are read stand. -/
theorem Reads.exists_context (h : c.Reads ts c') {before : List Char} (hafter : c.After before) :
    ∀ t ∈ ts, ∃ pre post, before ++ c.rest = pre ++ (t.text.toList ++ post) ∧
      t.start = utf8Length pre ∧ t.stop = utf8Length (pre ++ t.text.toList) ∧
      IsLexeme post t.kind t.text.toList ∧
      (t.kind = .word → ∀ b, pre.getLast? = some b → isWordChar b = false) := by
  induction h generalizing before with
  | nil c => exact List.forall_mem_nil _
  | @cons c c' c'' t ts hnext _ ih =>
    obtain ⟨blanks, hn⟩ := next?_eq_some_iff.1 hnext
    refine List.forall_mem_cons.2 ⟨⟨before ++ blanks, c'.rest, ?_, ?_, ?_, hn.isLexeme,
      fun hkind b hb => hafter.isWordChar_eq_false hn hkind hb⟩, fun u hu => ?_⟩
    · rw [hn.rest_eq, List.append_assoc]
    · rw [hn.start_eq, hafter.offset_eq, utf8Length_append]
    · rw [hn.stop_eq, hn.start_eq, hafter.offset_eq, utf8Length_append, utf8Length_append]
    · obtain ⟨pre, post, hsource, hu⟩ := ih (hafter.next hn) u hu
      refine ⟨pre, post, ?_, hu⟩
      rw [← hsource, hn.rest_eq]
      simp only [List.append_assoc]

end Cursor

/-- `t.IsIn s` says the span of `t` is the part of `s` that spells `t`, and `t` cannot be longer. -/
structure Token.IsIn (t : Token) (s : String) : Prop where
  /-- The span is not empty. -/
  start_lt_stop : t.start < t.stop
  /-- The span lies inside the source. -/
  stop_le : t.stop ≤ s.utf8ByteSize
  /-- The span does not begin inside a character. -/
  isValid_start : String.Pos.Raw.IsValid s ⟨t.start⟩
  /-- The span does not end inside a character. -/
  isValid_stop : String.Pos.Raw.IsValid s ⟨t.stop⟩
  /-- The text of the token is what the source has there. -/
  extract_eq : String.Pos.Raw.extract s ⟨t.start⟩ ⟨t.stop⟩ = t.text
  /-- The text is of the kind of the token where it stands, and a word begins where no word goes
  on. -/
  context : ∃ before after, s = before ++ t.text ++ after ∧ t.start = before.utf8ByteSize ∧
    IsLexeme after.toList t.kind t.text.toList ∧
    (t.kind = .word → ∀ b, before.toList.getLast? = some b → isWordChar b = false)

/-- A token whose text stands behind as many bytes as its span says. -/
theorem Token.isIn_of_context {t : Token} {s : String} {pre post : List Char}
    (hsource : s.toList = pre ++ (t.text.toList ++ post)) (hstart : t.start = utf8Length pre)
    (hstop : t.stop = utf8Length (pre ++ t.text.toList))
    (hlexeme : IsLexeme post t.kind t.text.toList)
    (hword : t.kind = .word → ∀ b, pre.getLast? = some b → isWordChar b = false) : t.IsIn s := by
  have hs : s = String.ofList pre ++ t.text ++ String.ofList post := by
    rw [← String.toList_inj, hsource]
    simp only [String.toList_append, String.toList_ofList, List.append_assoc]
  have hpre : t.start = (String.ofList pre).utf8ByteSize := by
    rw [hstart, utf8Length_eq_utf8ByteSize]
  have hspan : t.stop = (String.ofList pre ++ t.text).utf8ByteSize := by
    rw [hstop, utf8Length_eq_utf8ByteSize, String.ofList_append, String.ofList_toList]
  have hnonempty : 0 < t.text.utf8ByteSize := by
    obtain ⟨c, cs, htext, -⟩ := hlexeme.exists_cons
    rw [← utf8Length_toList, htext, utf8Length]
    exact Nat.add_pos_left c.utf8Size_pos _
  refine
    { start_lt_stop := ?_
      stop_le := ?_
      isValid_start := ?_
      isValid_stop := ?_
      extract_eq := ?_
      context := ⟨String.ofList pre, String.ofList post, hs, hpre, ?_, ?_⟩ }
  · rw [hspan, hpre, String.utf8ByteSize_append]
    omega
  · rw [hspan, hs, String.utf8ByteSize_append (s := String.ofList pre ++ t.text)]
    exact Nat.le_add_right _ _
  · refine String.Pos.Raw.isValid_iff_exists_append.2
      ⟨String.ofList pre, t.text ++ String.ofList post, ?_, ?_⟩
    · rw [hs, String.append_assoc]
    · rw [hpre]
      rfl
  · refine String.Pos.Raw.isValid_iff_exists_append.2
      ⟨String.ofList pre ++ t.text, String.ofList post, hs, ?_⟩
    rw [hspan]
    rfl
  · rw [hstart, hstop]
    exact extract_eq_of_toList_eq hsource
  · rwa [String.toList_ofList]
  · rwa [String.toList_ofList]

/-- Reading a text token by token comes to an end.  Every token covers a part of the text that
spells it, a part that begins and ends between characters and is as long as its kind allows.
The tokens follow each other without overlaps, and every character outside of them is blank. -/
theorem tokens_lossless (s : String) :
    (∃ c, (Cursor.start s.toList).Reads (tokens s) c ∧ c.next? = none) ∧
      (∀ t ∈ tokens s, t.IsIn s) ∧
      (tokens s).Pairwise (fun a b => a.stop ≤ b.start) ∧
      ∀ before c after, s = before ++ String.singleton c ++ after → isBlank c = false →
        ∃ t ∈ tokens s, t.start ≤ before.utf8ByteSize ∧
          (before ++ String.singleton c).utf8ByteSize ≤ t.stop := by
  obtain ⟨c, hreads, hend⟩ := Cursor.exists_reads_tokens (.start s.toList)
  refine ⟨⟨c, hreads, hend⟩, fun t ht => ?_, hreads.ordered.2, ?_⟩
  · obtain ⟨pre, post, hsource, hstart, hstop, hlexeme, hword⟩ :=
      hreads.exists_context (Cursor.after_start s.toList) t ht
    exact Token.isIn_of_context hsource hstart hstop hlexeme hword
  · rintro before ch after hs hch
    have hrest : (Cursor.start s.toList).rest = before.toList ++ ch :: after.toList := by
      rw [Cursor.start, hs]
      simp only [String.toList_append, String.toList_singleton, List.append_assoc,
        List.singleton_append]
    obtain ⟨t, ht, hle, hge⟩ := hreads.covers hend hrest hch
    refine ⟨t, ht, ?_, ?_⟩
    · rwa [Cursor.start, Nat.zero_add, utf8Length_toList] at hle
    · rwa [Cursor.start, Nat.zero_add, utf8Length_eq_utf8ByteSize, String.ofList_append,
        String.ofList_toList] at hge

/-- Letters of two bytes, a quote inside quotes and a quoted text that is not closed. -/
theorem tokens_lossless_unclosed :
    let s := "\u00a0dueños(\"a 'b\" 'ñ"
    let t : Token := ⟨.quoted, "'ñ", 17, 20⟩
    tokens s = [⟨.word, "dueños", 2, 9⟩, ⟨.symbol, "(", 9, 10⟩, ⟨.quoted, "\"a 'b\"", 10, 16⟩, t] ∧
      t ∈ tokens s ∧ t.IsIn s ∧
      s = "\u00a0due" ++ String.singleton 'ñ' ++ "os(\"a 'b\" 'ñ" ∧ isBlank 'ñ' = false ∧
      ∃ u ∈ tokens s, u.start ≤ 5 ∧ 7 ≤ u.stop := by
  intro s t
  have htokens : tokens s = [⟨.word, "dueños", 2, 9⟩, ⟨.symbol, "(", 9, 10⟩,
      ⟨.quoted, "\"a 'b\"", 10, 16⟩, t] := by
    decide +kernel
  have ht : t ∈ tokens s := by rw [htokens]; simp
  have hs : s = "\u00a0due" ++ String.singleton 'ñ' ++ "os(\"a 'b\" 'ñ" := by decide +kernel
  have hblank : isBlank 'ñ' = false := by decide
  obtain ⟨-, hin, -, hcovers⟩ := tokens_lossless s
  exact ⟨htokens, ht, hin t ht, hs, hblank, hcovers _ _ _ hs hblank⟩

end DogRegistry
