import DogRegistry.Statement.Token

/-!
# Value tuples

Behind its header a statement lists tuples: groups in parentheses, each a list of values between
commas.  There is no escaping, so neither a comma nor a closing parenthesis can stand in a value.

## Main definitions

* `cleanValue raw` — a value without the blanks around it and without one layer of quotes.
* `groups cs` — the contents of the groups in a text.
* `tuples s` — the values of every group in a text.

## Main results

* `unquote_quoted` — the quotes around a text are the layer that is removed.
-/

namespace DogRegistry

open Text

/-- A text without its first and last character if those are the same quote. -/
def unquote : List Char → List Char
  | [] => []
  | q :: cs => if isQuote q && cs.getLast? == some q then cs.dropLast else q :: cs

/-- The value that is written as `raw`. -/
def cleanValue (raw : List Char) : List Char :=
  unquote (trimChars raw)

/-- The value that a text stands for. -/
def parseValue (raw : String) : String :=
  String.ofList (cleanValue raw.toList)

/-- The contents of the groups in a text, from left to right.  A group begins at an opening
parenthesis and ends at the next closing one.  Opening parentheses inside belong to the content,
`()` is no group, and a group that is not closed ends the search. -/
def groups (cs : List Char) : List (List Char) :=
  match _opened : cs.dropWhile (· != '(') with
  | [] => []
  | _ :: body =>
    match _closed : body.dropWhile (· != ')') with
    | [] => []
    | _ :: rest =>
      if body.takeWhile (· != ')') = [] then groups body
      else body.takeWhile (· != ')') :: groups rest
termination_by cs.length
decreasing_by
  all_goals
    have h₁ := (List.dropWhile_sublist (· != '(') (l := cs)).length_le
    have h₂ := (List.dropWhile_sublist (· != ')') (l := body)).length_le
    rw [_opened, List.length_cons] at h₁
    rw [_closed, List.length_cons] at h₂
    omega

/-- The values of a group: its content cut at every comma. -/
def groupValues (content : List Char) : List String :=
  (content.splitOn ',').map fun raw => String.ofList (cleanValue raw)

/-- The values of every group in a list of characters. -/
def tuplesOfChars (cs : List Char) : List (List String) :=
  (groups cs).map groupValues

/-- The values of every group in a text. -/
def tuples (s : String) : List (List String) :=
  tuplesOfChars s.toList

@[simp] theorem unquote_nil : unquote [] = [] := rfl

theorem unquote_quoted {q : Char} (h : isQuote q) (cs : List Char) :
    unquote (q :: (cs ++ [q])) = cs := by
  simp [unquote, h]

end DogRegistry
