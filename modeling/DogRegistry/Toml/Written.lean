/-!
# Written strings

The form in which a text is written as a string of a settings text: in the first of four kinds of
quotes in which it needs no escapes, and otherwise in double quotes with escapes.  Only texts with
line feeds extend over several lines.

## Main definitions

* `Quotes` — the four kinds of quotes.
* `Quotes.suits`, `Quotes.choose` — the choice between them.
* `writeString` — the written form.
-/

namespace DogRegistry.Toml

/-- The quotes around a string. -/
inductive Quotes
  /-- Double quotes. -/
  | double
  /-- Single quotes, between which there are no escapes. -/
  | single
  /-- Three double quotes. -/
  | tripleDouble
  /-- Three single quotes, between which there are no escapes. -/
  | tripleSingle
  deriving DecidableEq, Repr

namespace Quotes

/-- The quotes themselves. -/
def mark : Quotes → String
  | double => "\""
  | single => "'"
  | tripleDouble => "\"\"\""
  | tripleSingle => "'''"

/-- `q.isTriple` says a string in the quotes may have several lines. -/
def isTriple : Quotes → Bool
  | tripleDouble | tripleSingle => true
  | double | single => false

/-- `q.hasEscapes` says a backslash between the quotes begins an escape. -/
def hasEscapes : Quotes → Bool
  | double | tripleDouble => true
  | single | tripleSingle => false

/-- The character that the quotes are made of. -/
def character : Quotes → Char
  | double | tripleDouble => '"'
  | single | tripleSingle => '\''

/-- How many quotes may stand in a row inside a string. -/
def allowedRun (q : Quotes) : Nat :=
  if q.isTriple then 2 else 0

end Quotes

/-- `isControl c` says `c` is a control character other than the tab and the line feed. -/
def isControl (c : Char) : Bool :=
  (c.toNat < 32 && c != '\t' && c != '\n') || c == '\x7f'

/-- The greatest number of times that a character stands in a row, where the text goes on behind
`run` such characters. -/
def longestRunFrom (c : Char) (run : Nat) : List Char → Nat
  | [] => run
  | d :: cs => if d = c then longestRunFrom c (run + 1) cs else max run (longestRunFrom c 0 cs)

/-- The greatest number of times that a character stands in a row. -/
def longestRun (c : Char) (cs : List Char) : Nat :=
  longestRunFrom c 0 cs

namespace Quotes

/-- `q.suits cs` says the characters can stand between the quotes without escapes. -/
def suits (q : Quotes) (cs : List Char) : Bool :=
  !cs.any isControl && !(q.hasEscapes && cs.contains '\\')
    && longestRun q.character cs ≤ q.allowedRun && (q.isTriple || !cs.contains '\n')

/-- The quotes in which a text is written: the first that suit, and otherwise double ones, three of
them if there are line feeds. -/
def choose (cs : List Char) : Quotes :=
  match [double, single, tripleDouble, tripleSingle].find? fun q => q.suits cs with
  | some q => q
  | none => if cs.contains '\n' then tripleDouble else double

end Quotes

/-- The escape of a character that is not a quote, if it needs one. -/
def escapeOf? (newlines : Bool) (c : Char) : Option (List Char) :=
  if c = '\\' then some ['\\', '\\']
  else if c = '\x08' then some ['\\', 'b']
  else if c = '\t' then some ['\\', 't']
  else if c = '\n' then if newlines then none else some ['\\', 'n']
  else if c = '\x0c' then some ['\\', 'f']
  else if c = '\r' then some ['\\', 'r']
  else if isControl c then
    some ['\\', 'u', '0', '0', (c.toNat / 16).digitChar.toUpper, (c.toNat % 16).digitChar.toUpper]
  else none

/-- The characters of a text with the escapes they need, where `allowed` quotes may stand in a row
and `run` stand in front of the text. -/
def escapeFrom (allowed : Nat) (newlines : Bool) (run : Nat) : List Char → List Char
  | [] => []
  | c :: cs =>
    if c = '"' then
      if run < allowed then c :: escapeFrom allowed newlines (run + 1) cs
      else '\\' :: c :: escapeFrom allowed newlines 0 cs
    else (escapeOf? newlines c).getD [c] ++ escapeFrom allowed newlines 0 cs

/-- The characters of a text between the given quotes. -/
def writtenChars (q : Quotes) (cs : List Char) : List Char :=
  if q.hasEscapes then escapeFrom q.allowedRun q.isTriple 0 cs else cs

/-- A text as a string.  A text with line feeds begins on a line of its own. -/
def writeString (s : String) : String :=
  let q := Quotes.choose s.toList
  let start := if q.isTriple && s.toList.contains '\n' then "\n" else ""
  q.mark ++ start ++ String.ofList (writtenChars q s.toList) ++ q.mark

end DogRegistry.Toml
