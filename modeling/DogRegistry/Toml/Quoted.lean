import DogRegistry.Json.StringMap
import DogRegistry.Toml.Reader

/-!
# Strings of settings texts

A string stands in quotes of one of two kinds.  In double quotes a backslash begins an escape; in
single quotes every character stands for itself.  A string between triple quotes may extend over
several lines.

## Main definitions

* `isTextChar c` — the characters that stand for themselves in strings and comments.
* `blanks`, `newline` — what may stand between the parts of a line, and its end.
* `quoted`, `quotedLines` — readers of strings on one line and on several.
-/

namespace DogRegistry.Toml

open Reader

/-! ### Characters -/

/-- `isTextChar c` says `c` may stand in a text as it is: no control character but the tab. -/
def isTextChar (c : Char) : Bool :=
  c == '\t' || (' ' ≤ c && c != '\x7f')

/-- `isBlankChar c` says `c` may stand between the parts of a line. -/
def isBlankChar (c : Char) : Bool :=
  c == ' ' || c == '\t'

/-- Takes the blanks at the front. -/
def blanks : Reader Unit := do
  let _ ← takeWhile isBlankChar

/-- Takes the end of a line: a line feed, or a carriage return and a line feed. -/
def newline : Reader Unit :=
  char '\n' <|> exactly ['\r', '\n']

/-! ### Escapes -/

/-- Reads a hexadecimal digit. -/
def hexDigit : Reader Nat := fun cs =>
  match cs with
  | [] => none
  | c :: rest => (Json.hexValue? c).map (·, rest)

/-- Reads the number of a character in `n` hexadecimal digits.  Surrogates and numbers that are too
large stand for nothing. -/
def numberedChar (n : Nat) : Reader Char := do
  let digits ← times hexDigit n
  let code := digits.foldl (fun code d => code * 16 + d) 0
  if h : code.isValidChar then return Char.ofNatAux code h else failure

/-- Reads an escape. -/
def escape : Reader Char := do
  char '\\'
  match ← one fun _ => true with
  | 'b' => return '\x08'
  | 't' => return '\t'
  | 'n' => return '\n'
  | 'f' => return '\x0c'
  | 'r' => return '\r'
  | '"' => return '"'
  | '\\' => return '\\'
  | 'u' => numberedChar 4
  | 'U' => numberedChar 8
  | _ => failure

/-- Takes a backslash at the end of a line, and all blanks and line ends behind it. -/
def escapedNewline : Reader Unit := do
  char '\\'
  blanks
  newline
  let _ ← many (newline <|> (do let _ ← one isBlankChar))

/-! ### Strings -/

/-- Reads characters that stand for themselves between the given quotes. -/
def plainPiece (quote : Char) : Reader (List Char) :=
  takeSome fun c => isTextChar c && c != quote && !(quote == '"' && c == '\\')

/-- Reads a piece of a string between the given quotes. -/
def piece (quote : Char) : Reader (List Char) :=
  if quote = '"' then plainPiece quote <|> (do return [← escape]) else plainPiece quote

/-- Reads a string between the given quotes on one line. -/
def lineIn (quote : Char) : Reader (List Char) := do
  char quote
  let pieces ← many (piece quote)
  char quote
  return pieces.flatten

/-- Reads one quote or two, which do not end a string between triple quotes. -/
def fewQuotes (quote : Char) : Reader (List Char) := do
  let run ← takeSome (· == quote)
  if run.length ≤ 2 then return run else failure

/-- Reads a piece of a string between triple quotes.  A line end is a line feed, and a backslash in
front of it takes it away. -/
def linesPiece (quote : Char) : Reader (List Char) :=
  (do
    if quote = '"' then escapedNewline else failure
    return [])
    <|> piece quote
    <|> (do
      newline
      return ['\n'])
    <|> fewQuotes quote

/-- Reads a string between triple quotes.  A line end right behind the first ones does not count,
and up to two quotes may stand in front of the last ones. -/
def linesIn (quote : Char) : Reader (List Char) := do
  exactly [quote, quote, quote]
  let _ ← optional newline
  let pieces ← many (linesPiece quote)
  let run ← takeWhile (· == quote)
  if 3 ≤ run.length ∧ run.length ≤ 5 then return pieces.flatten ++ run.drop 3 else failure

/-- Reads a string on one line. -/
def quoted : Reader String := do
  return String.ofList (← lineIn '"' <|> lineIn '\'')

/-- Reads a string that may extend over several lines. -/
def quotedLines : Reader String := do
  return String.ofList (← linesIn '"' <|> linesIn '\'' <|> lineIn '"' <|> lineIn '\'')

end DogRegistry.Toml
