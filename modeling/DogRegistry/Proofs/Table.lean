import DogRegistry.Proofs.Text.Split
import DogRegistry.Table

/-!
# The text form of a table

Nothing is escaped in the text form of a table, so it can only be read back where no cell holds a
separator and no row looks like a blank line.  What is read from a text is always of that kind.

## Main definitions

* `CanonicalRow cells` — the line of a row gives the row back.
* `Table.Canonical` — all rows of a table are canonical, its header included.
* `Table.reread` — the table that the text of a table is read as.
* `Table.withoutBlankLines text` — a text without its blank lines.

## Main results

* `Table.parse_toText` — the text of a table can be read if its header is canonical.
* `Table.Canonical.parse_toText` — a canonical table that is written and read again is the same.
* `Table.canonical_of_parse` — every table that is read from a text is canonical.
* `Table.parse_toText_iff` — so these are the tables that their text form keeps.
* `Table.parse_eq_error_iff` — a text that cannot be read has nothing but blank lines.
* `Table.toText_of_parse` — what is read from a text is written as the text without its blank lines.
* `Table.parse_inverse_toText` — what reading and writing undo of each other.
-/

namespace DogRegistry

open Text

/-! ### Rows -/

/-- A row whose line is one line of a table and can be cut into its cells again. -/
structure CanonicalRow (cells : List String) : Prop where
  /-- There is a cell. -/
  ne_nil : cells ≠ []
  /-- No cell holds the separator of cells. -/
  comma_not_mem : ∀ cell ∈ cells, ',' ∉ cell.toList
  /-- No cell holds the separator of rows. -/
  lineFeed_not_mem : ∀ cell ∈ cells, '\n' ∉ cell.toList
  /-- The line is not one of those that are skipped. -/
  not_blank : isBlankText (Table.lineText cells) = false

theorem Table.lineText_eq (cells : List String) :
    lineText cells = (String.singleton ',').intercalate cells :=
  rfl

namespace CanonicalRow

variable {cells : List String}

/-- A canonical row is what its line is cut into. -/
theorem lineCells_lineText (h : CanonicalRow cells) :
    Table.lineCells (Table.lineText cells) = cells :=
  splitAtChar_intercalate h.comma_not_mem h.ne_nil

/-- The line of a canonical row is one line. -/
theorem lineFeed_not_mem_lineText (h : CanonicalRow cells) :
    '\n' ∉ (Table.lineText cells).toList := by
  rw [Table.lineText_eq]
  exact not_mem_toList_intercalate (by decide) h.lineFeed_not_mem

/-- Every line that is not blank is cut into a canonical row. -/
theorem of_line {line : String} (hline : '\n' ∉ line.toList) (hblank : isBlankText line = false) :
    CanonicalRow (Table.lineCells line) where
  ne_nil := splitAtChar_ne_nil ',' line
  comma_not_mem cell hcell := not_mem_of_mem_splitAtChar hcell
  lineFeed_not_mem cell hcell hc := hline (mem_of_mem_splitAtChar hcell hc)
  not_blank := by rw [Table.lineText_lineCells, hblank]

/-- A row of two cells or more is never taken for a blank line. -/
theorem of_two_le_length (hlength : 2 ≤ cells.length)
    (hcomma : ∀ cell ∈ cells, ',' ∉ cell.toList) (hlineFeed : ∀ cell ∈ cells, '\n' ∉ cell.toList) :
    CanonicalRow cells where
  ne_nil := List.ne_nil_of_length_pos (by omega)
  comma_not_mem := hcomma
  lineFeed_not_mem := hlineFeed
  not_blank := by
    -- the comma between two cells is not a blank
    have hmem : ',' ∈ ((String.singleton ',').intercalate cells).toList :=
      mem_toList_intercalate_iff.2 (.inl ⟨by decide, hlength⟩)
    rw [Table.lineText_eq, isBlankText, List.all_eq_false]
    exact ⟨',', hmem, by decide⟩

end CanonicalRow

/-! ### Tables -/

namespace Table

/-- The header and all rows of a table are canonical. -/
def Canonical (t : Table) : Prop :=
  ∀ cells ∈ t.header :: t.rows, CanonicalRow cells

/-- The rows that the line of a row is read as: one for each of its parts that is not blank. -/
def rereadRow (row : List String) : List (List String) :=
  ((splitAtChar '\n' (lineText row)).filter fun line => !isBlankText line).map lineCells

/-- The table that the text of a table is read as. -/
def reread (t : Table) : Table :=
  { t with rows := t.rows.flatMap rereadRow }

variable {t : Table}

/-- The line of a canonical row is one line, which is not skipped. -/
theorem filter_splitAtChar_lineText {cells : List String} (h : CanonicalRow cells) :
    ((splitAtChar '\n' (lineText cells)).filter fun line => !isBlankText line) =
      [lineText cells] := by
  rw [splitAtChar_of_not_mem h.lineFeed_not_mem_lineText, List.filter_singleton, h.not_blank]
  rfl

/-- A canonical row is read as itself. -/
theorem rereadRow_eq_singleton {row : List String} (h : CanonicalRow row) :
    rereadRow row = [row] := by
  rw [rereadRow, filter_splitAtChar_lineText h, List.map_singleton, h.lineCells_lineText]

/-- The text of a table with a canonical header can be read, whatever the rows hold. -/
theorem parse_toText (h : CanonicalRow t.header) : parse t.toText = .ok t.reread := by
  have hlines : splitAtChar '\n' t.toText =
      splitAtChar '\n' (lineText t.header) ++
        t.rows.flatMap fun row => splitAtChar '\n' (lineText row) := by
    have hcut := splitAtChar_intercalate_eq_flatMap '\n'
      (List.cons_ne_nil (lineText t.header) (t.rows.map lineText))
    rwa [List.flatMap_cons, List.flatMap_map] at hcut
  rw [parse, hlines, List.filter_append, filter_splitAtChar_lineText h, List.filter_flatMap,
    List.singleton_append]
  simp only [h.lineCells_lineText, List.map_flatMap]
  rfl

theorem Canonical.reread_eq (h : t.Canonical) : t.reread = t := by
  have hrows : t.rows.flatMap rereadRow = t.rows.flatMap fun row => [row] :=
    List.flatMap_congr fun row hrow => rereadRow_eq_singleton (h row (List.mem_cons_of_mem _ hrow))
  rw [reread, hrows, List.flatMap_singleton']

/-- A canonical table that is written and read again is the same. -/
theorem Canonical.parse_toText (h : t.Canonical) : parse t.toText = .ok t := by
  rw [Table.parse_toText (h t.header List.mem_cons_self), h.reread_eq]

/-- A table that is read has the lines that are not blank as its header and rows. -/
theorem exists_lines_of_parse {text : String} (h : parse text = .ok t) :
    ∃ header rows, ((splitAtChar '\n' text).filter fun line => !isBlankText line) = header :: rows ∧
      t = ⟨lineCells header, rows.map lineCells⟩ := by
  rw [parse] at h
  split at h
  next => exact absurd h (by simp)
  next header rows hlines => exact ⟨header, rows, hlines, (Except.ok.inj h).symm⟩

/-- Every table that is read from a text is canonical. -/
theorem canonical_of_parse {text : String} (h : parse text = .ok t) : t.Canonical := by
  obtain ⟨header, rows, hlines, rfl⟩ := exists_lines_of_parse h
  intro cells hcells
  have hcells' : cells ∈ (header :: rows).map lineCells := hcells
  obtain ⟨line, hline, rfl⟩ := List.mem_map.1 hcells'
  rw [← hlines] at hline
  obtain ⟨hpiece, hblank⟩ := List.mem_filter.1 hline
  exact .of_line (not_mem_of_mem_splitAtChar hpiece) (by simpa using hblank)

/-- The text form of a table gives the table back if and only if the table is canonical. -/
theorem parse_toText_iff : parse t.toText = .ok t ↔ t.Canonical :=
  ⟨canonical_of_parse, Canonical.parse_toText⟩

/-! ### Texts -/

/-- A text without its blank lines. -/
def withoutBlankLines (text : String) : String :=
  "\n".intercalate ((splitAtChar '\n' text).filter fun line => !isBlankText line)

variable {text : String}

/-- A text can be read unless all of its lines are blank. -/
theorem parse_eq_error_iff :
    parse text = .error .missingHeader ↔ ∀ line ∈ splitAtChar '\n' text, isBlankText line := by
  have hnil : ((splitAtChar '\n' text).filter fun line => !isBlankText line) = [] ↔
      ∀ line ∈ splitAtChar '\n' text, isBlankText line := by
    simp only [List.filter_eq_nil_iff, Bool.not_eq_true, Bool.not_eq_false']
  rw [← hnil, parse]
  split
  next h => simp [h]
  next h => simp [h]

/-- What is read from a text is written as the text without its blank lines. -/
theorem toText_of_parse (h : parse text = .ok t) : t.toText = withoutBlankLines text := by
  obtain ⟨header, rows, hlines, rfl⟩ := exists_lines_of_parse h
  have hrows : (rows.map lineCells).map lineText = rows := by
    rw [List.map_map]
    exact (List.map_congr_left fun line _ => lineText_lineCells line).trans (List.map_id rows)
  rw [withoutBlankLines, hlines, toText, List.map_cons, lineText_lineCells, hrows]

/-- The text form of a table gives the table back if and only if the table is canonical.  A text
cannot be read if and only if all of its lines are blank; what is read from any other text is
canonical, and is written as the text without its blank lines. -/
theorem parse_inverse_toText :
    (∀ t : Table, parse t.toText = .ok t ↔ t.Canonical) ∧
      ∀ text : String,
        (parse text = .error .missingHeader ↔
            ∀ line ∈ splitAtChar '\n' text, isBlankText line) ∧
          (parse text = .error .missingHeader ∨
            ∃ t, parse text = .ok t ∧ t.Canonical ∧ t.toText = withoutBlankLines text) := by
  refine ⟨fun t => parse_toText_iff, fun text => ⟨parse_eq_error_iff, ?_⟩⟩
  cases h : parse text with
  | error cause =>
    cases cause
    exact .inl rfl
  | ok t => exact .inr ⟨t, rfl, canonical_of_parse h, toText_of_parse h⟩

/-- Blank lines, before the header too, are all that is lost of a text. -/
example : withoutBlankLines "\na , b\r\n \t\n1, x \n" = "a , b\r\n1, x " := by
  decide +kernel

end Table

end DogRegistry
