/-!
# Cutting and joining texts

A text cut at every occurrence of a separator, and pieces joined with one.

## Main definitions

* `splitAtChar sep s` — the pieces of `s` between the separators, empty ones included.
* `lines s` — the lines of a text, where a final line end adds no line.
* `bracketed items` — a list of texts in brackets.

## Main results

* `intercalate_splitAtChar` — joining the pieces gives the text back.
-/

namespace DogRegistry.Text

/-- The pieces of `s` between the occurrences of `sep`: one more than there are occurrences. -/
def splitAtChar (sep : Char) (s : String) : List String :=
  (s.toList.splitOn sep).map String.ofList

theorem intercalate_splitAtChar (sep : Char) (s : String) :
    (String.singleton sep).intercalate (splitAtChar sep s) = s := by
  apply String.toList_inj.1
  simp [splitAtChar, String.toList_intercalate, Function.comp_def, List.intercalate_splitOn]

/-- A line without the carriage return at its end. -/
def dropCarriageReturn (cs : List Char) : List Char :=
  if cs.getLast? = some '\r' then cs.dropLast else cs

/-- The lines of a text without their line ends, which are a line feed or a carriage return and a
line feed.  Text after the last line feed is a line only if it is not empty, and keeps its carriage
return. -/
def lines (s : String) : List String :=
  let pieces := s.toList.splitOn '\n'
  let ended := pieces.dropLast.map dropCarriageReturn
  let last := (pieces.getLast?.toList).filter fun cs => !cs.isEmpty
  (ended ++ last).map String.ofList

/-- A list of texts in brackets, with commas between. -/
def bracketed (items : List String) : String :=
  "[" ++ ", ".intercalate items ++ "]"

end DogRegistry.Text
