/-!
# Readers

A reader takes characters from the front of a text and gives a value, or it fails.  Readers are put
together with `do` and with `<|>`, which tries its second reader on the same text if the first one
fails.

## Main definitions

* `Reader` — the readers.
* `Reader.one`, `Reader.exactly`, `Reader.takeWhile` — readers of characters.
* `Reader.many`, `Reader.times` — a reader again and again.
-/

namespace DogRegistry.Toml

/-- A reader gives a value and the characters that it leaves, or fails. -/
abbrev Reader := StateT (List Char) Option

namespace Reader

variable {α : Type}

/-- Takes one character for which `p` holds. -/
def one (p : Char → Bool) : Reader Char := fun cs =>
  match cs with
  | [] => none
  | c :: rest => if p c then some (c, rest) else none

/-- Takes the given character. -/
def char (c : Char) : Reader Unit := do
  let _ ← one (· == c)

/-- Takes the given characters one after the other. -/
def exactly : List Char → Reader Unit
  | [] => pure ()
  | c :: cs => do
    char c
    exactly cs

/-- Takes the characters at the front for which `p` holds. -/
def takeWhile (p : Char → Bool) : Reader (List Char) := fun cs =>
  some (cs.takeWhile p, cs.dropWhile p)

/-- Takes the characters at the front for which `p` holds, one at least. -/
def takeSome (p : Char → Bool) : Reader (List Char) := do
  let c ← one p
  let cs ← takeWhile p
  return c :: cs

/-- Holds where nothing is left. -/
def atEnd : Reader Unit := fun cs =>
  if cs.isEmpty then some ((), cs) else none

/-- Reads with `r` exactly `n` times. -/
def times (r : Reader α) : Nat → Reader (List α)
  | 0 => pure []
  | n + 1 => do
    let a ← r
    let as ← times r n
    return a :: as

/-- Reads with `r` at most `n` times, until it fails or takes nothing. -/
def atMost (r : Reader α) : Nat → Reader (List α)
  | 0 => pure []
  | n + 1 => fun cs =>
    match r cs with
    | none => some ([], cs)
    | some (a, rest) =>
      if rest.length < cs.length then (atMost r n rest).map fun s => (a :: s.1, s.2)
      else some ([], cs)

/-- Reads with `r` until it fails or takes nothing.  As it takes a character every time, the length
of the text bounds how often it is used. -/
def many (r : Reader α) : Reader (List α) := fun cs =>
  atMost r cs.length cs

end Reader

end DogRegistry.Toml
