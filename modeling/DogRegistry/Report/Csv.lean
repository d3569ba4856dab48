/-!
# Comma-separated values

Records on lines, fields between commas.  A field that holds a comma, a quote or a line break is
enclosed in quotes, and a quote inside it is written twice.

## Main definitions

* `Csv.field` — the written form of a field.
* `Csv.document` — the written form of records, each with a line feed behind it.
-/

namespace DogRegistry

namespace Csv

/-- `needsQuotes c` says a field with the character `c` is enclosed in quotes. -/
def needsQuotes (c : Char) : Bool :=
  c == ',' || c == '"' || c == '\n' || c == '\r'

/-- Every quote twice. -/
def doubleQuotes (cs : List Char) : List Char :=
  cs.flatMap fun c => if c = '"' then ['"', '"'] else [c]

/-- The characters of a field in its written form. -/
def fieldChars (cs : List Char) : List Char :=
  if cs.any needsQuotes then '"' :: (doubleQuotes cs ++ ['"']) else cs

/-- The written form of a field. -/
def field (s : String) : String :=
  String.ofList (fieldChars s.toList)

/-- The line of a record. -/
def line (fields : List String) : String :=
  ",".intercalate (fields.map field) ++ "\n"

/-- The written form of records. -/
def document (records : List (List String)) : String :=
  String.join (records.map line)

end Csv

end DogRegistry
