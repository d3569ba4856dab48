import DogRegistry.Text.Blank
import DogRegistry.Text.CaseTable

/-!
# Lower-casing

The full lower-case form of a text.  Every character is mapped by itself, with two exceptions: the
capital I with a dot becomes two characters, and a capital sigma becomes the final sigma where a
word ends and the common one elsewhere.

## Main definitions

* `lowerChar c` — the lower-case form of one character.
* `endsWord before after` — whether a letter between the two contexts is the last of its word.
* `lowerCase s` — the lower-case form of a text.
-/

namespace DogRegistry.Text

/-- The capital sigma, the one letter whose lower-case form depends on its context. -/
def capitalSigma : Char := 'Σ'

/-- The lower-case letter at distance `run.shift` when `run` holds the code point `n`. -/
def CaseRun.apply? (run : CaseRun) (n : Nat) : Option Char :=
  if run.first ≤ n && n ≤ run.last && (n - run.first) % run.step == 0 then
    some (Char.ofNat (n + run.shift).toNat)
  else
    none

/-- The lower-case form of a character apart from its context. -/
def lowerChar (c : Char) : List Char :=
  if c.toNat < 128 then [c.toLower]
  else if c = 'İ' then ['i', '\u0307']
  else [(lowerCaseRuns.findSome? fun run => run.apply? c.toNat).getD c]

/-- `meetsCased cs` says the first character of `cs` that is not case-ignorable is cased. -/
def meetsCased (cs : List Char) : Bool :=
  match cs.dropWhile fun c => inRanges caseIgnorableRanges c.toNat with
  | [] => false
  | c :: _ => inRanges casedRanges c.toNat

/-- `endsWord before after` says a letter after the characters `before`, nearest first, and in front
of `after` is the last one of a word: a cased character precedes it and none follows. -/
def endsWord (before after : List Char) : Bool :=
  meetsCased before && !meetsCased after

/-- The lower-case form of `cs`, where `before` holds the characters read already, nearest first. -/
def lowerCaseFrom (before : List Char) : List Char → List Char
  | [] => []
  | c :: cs =>
    (if c = capitalSigma then [if endsWord before cs then 'ς' else 'σ'] else lowerChar c)
      ++ lowerCaseFrom (c :: before) cs

/-- The lower-case form of a text. -/
def lowerCase (s : String) : String :=
  String.ofList (lowerCaseFrom [] s.toList)

@[simp] theorem lowerCaseFrom_nil (before : List Char) : lowerCaseFrom before [] = [] := rfl

end DogRegistry.Text
