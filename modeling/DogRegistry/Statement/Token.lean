import DogRegistry.Text.Word

/-!
# Tokens

The header of a statement is read as words, quoted texts and single symbols, with blanks between
them.  Every token knows the bytes it covers in the UTF-8 form of its source.

## Main definitions

* `Token` — a token with its span.
* `lexeme c cs` — the token at the front of a text whose first character is not blank.
* `Cursor` — a place in a text, with `Cursor.next?` for the token after it.
* `tokens s` — all tokens of a text.

## Main results

* `lexeme_append` — a token and the text after it are the text before.
* `Cursor.next?_rest_length_lt` — reading a token makes the remaining text shorter.
-/

namespace DogRegistry

open Text

/-- The kinds of tokens. -/
inductive TokenKind
  /-- A run of word characters, as long as possible. -/
  | word
  /-- A text between two equal quotes, or from an opening quote to the end of the source. -/
  | quoted
  /-- Any other single character. -/
  | symbol
  deriving DecidableEq, Repr, Inhabited

/-- The written name of a kind. -/
def TokenKind.label : TokenKind → String
  | word => "word"
  | quoted => "quoted"
  | symbol => "symbol"

/-- A token. -/
structure Token where
  /-- What the token is. -/
  kind : TokenKind
  /-- The source text it covers, quotes included. -/
  text : String
  /-- How many bytes precede it. -/
  start : Nat
  /-- How many bytes precede what comes after it. -/
  stop : Nat
  deriving DecidableEq, Repr, Inhabited

/-- `t.isKeyword k` says `t` is a word that equals `k` up to the case of ASCII letters. -/
def Token.isKeyword (t : Token) (keyword : String) : Bool :=
  t.kind == .word && equalsIgnoringAsciiCase t.text.toList keyword.toList

/-- `isQuote c` says `c` encloses quoted texts. -/
def isQuote (c : Char) : Bool :=
  c == '\'' || c == '"'

/-- The number of bytes of the characters in UTF-8. -/
def utf8Length : List Char → Nat
  | [] => 0
  | c :: cs => c.utf8Size + utf8Length cs

/-! ### One token -/

/-- A token without its place, and the characters after it. -/
structure Lexeme where
  /-- What the token is. -/
  kind : TokenKind
  /-- The characters of the token. -/
  text : List Char
  /-- The characters after it. -/
  rest : List Char
  deriving DecidableEq, Repr

/-- The token at the front of `c :: cs`, where `c` is not blank. -/
def lexeme (c : Char) (cs : List Char) : Lexeme :=
  if isWordChar c then
    ⟨.word, c :: cs.takeWhile isWordChar, cs.dropWhile isWordChar⟩
  else if isQuote c then
    ⟨.quoted, c :: (cs.takeWhile (· != c) ++ (cs.dropWhile (· != c)).take 1),
      (cs.dropWhile (· != c)).drop 1⟩
  else
    ⟨.symbol, [c], cs⟩

theorem lexeme_append (c : Char) (cs : List Char) :
    (lexeme c cs).text ++ (lexeme c cs).rest = c :: cs := by
  unfold lexeme
  split
  · simp
  · split
    · rw [List.cons_append, List.append_assoc, List.take_append_drop,
        List.takeWhile_append_dropWhile]
    · rfl

theorem lexeme_text_ne_nil (c : Char) (cs : List Char) : (lexeme c cs).text ≠ [] := by
  unfold lexeme
  split
  · simp
  · split <;> simp

theorem lexeme_rest_length_le (c : Char) (cs : List Char) :
    (lexeme c cs).rest.length ≤ cs.length := by
  have h := congrArg List.length (lexeme_append c cs)
  have h' := List.length_pos_iff.2 (lexeme_text_ne_nil c cs)
  simp only [List.length_append, List.length_cons] at h
  omega

/-! ### All tokens -/

/-- A place in a text. -/
structure Cursor where
  /-- How many bytes precede the place. -/
  offset : Nat
  /-- The characters that follow it. -/
  rest : List Char
  deriving DecidableEq, Repr

namespace Cursor

/-- The place at the front of a text. -/
def start (cs : List Char) : Cursor :=
  ⟨0, cs⟩

/-- The first token after a place and the place behind it, or `none` if only blanks follow. -/
def next? (c : Cursor) : Option (Token × Cursor) :=
  match c.rest.dropWhile isBlank with
  | [] => none
  | ch :: cs =>
    let lex := lexeme ch cs
    let start := c.offset + utf8Length (c.rest.takeWhile isBlank)
    let stop := start + utf8Length lex.text
    some (⟨lex.kind, String.ofList lex.text, start, stop⟩, ⟨stop, lex.rest⟩)

theorem next?_rest_length_lt {c c' : Cursor} {t : Token} (h : c.next? = some (t, c')) :
    c'.rest.length < c.rest.length := by
  unfold next? at h
  split at h
  · simp at h
  · next ch cs hc =>
    obtain ⟨-, rfl⟩ := by simpa using h
    have h₁ := lexeme_rest_length_le ch cs
    have h₂ := (List.dropWhile_sublist isBlank (l := c.rest)).length_le
    rw [hc, List.length_cons] at h₂
    exact Nat.lt_of_le_of_lt h₁ h₂

/-- The tokens after a place. -/
def tokens (c : Cursor) : List Token :=
  match _h : c.next? with
  | none => []
  | some (t, c') => t :: c'.tokens
termination_by c.rest.length
decreasing_by exact next?_rest_length_lt _h

/-- The place behind the first token after `c` that is the given keyword, if there is one. -/
def afterKeyword? (keyword : String) (c : Cursor) : Option Cursor :=
  match _h : c.next? with
  | none => none
  | some (t, c') => if t.isKeyword keyword then some c' else c'.afterKeyword? keyword
termination_by c.rest.length
decreasing_by exact next?_rest_length_lt _h

end Cursor

/-- The tokens of a text, from left to right. -/
def tokens (s : String) : List Token :=
  (Cursor.start s.toList).tokens

end DogRegistry
