import DogRegistry.Proofs.RowId
import DogRegistry.Report.Format

/-!
# Reading comma-separated values

A reader takes a text character by character.  Outside of quotes a comma ends a field and a line
feed ends a record.  A field that begins with a quote goes on to the closing quote, and two quotes
inside of it stand for one.  Such a reader gives back what was written, whatever the fields hold.

## Main definitions

* `Csv.Reader` — the state of a reader, with `Csv.Reader.step?` for one character.
* `Csv.Reader.Takes r cs r'` — the reader `r` takes the characters `cs` and is `r'` afterwards.
* `Csv.read?` — the records of a text.

## Main results

* `Csv.takes_doubleQuotes`, `Csv.takes_of_needsQuotes` — the text of a field with quotes around it
  and without.
* `Csv.takes_field`, `Csv.takes_line`, `Csv.takes_document` — a field with the delimiter behind it,
  a record, and all records.
* `Csv.read?_document` — what was written is read back.
* `Record.line_fields` — which fields of a log can have quotes around them.
* `Csv.reports_read_back` — so are grids and logs.
-/

namespace DogRegistry

namespace Csv

/-! ### The reader -/

/-- Where a reader stands in a field. -/
inductive Place
  /-- No character of the field has been read. -/
  | start
  /-- The field has no quotes around it. -/
  | plain
  /-- The field has quotes around it. -/
  | quoted
  /-- A quote has been read in such a field: the closing one, or the first of two. -/
  | closed
  deriving DecidableEq, Repr

/-- The state of a reader. -/
structure Reader where
  /-- The records that have been read. -/
  records : List (List String) := []
  /-- The fields of the next record that have been read. -/
  fields : List String := []
  /-- The text of the next field so far. -/
  text : List Char := []
  /-- Where the reader stands in that field. -/
  place : Place := .start
  deriving DecidableEq, Repr

namespace Reader

/-- Adds a character to the text of the field. -/
def add (r : Reader) (c : Char) (place : Place) : Reader :=
  { r with text := r.text ++ [c], place }

/-- The fields of the record with the one that ends here. -/
def closedFields (r : Reader) : List String :=
  r.fields ++ [String.ofList r.text]

/-- Ends the field at a comma, and the record as well at a line feed. -/
def delimit? (r : Reader) (c : Char) : Option Reader :=
  if c = ',' then some { records := r.records, fields := r.closedFields }
  else if c = '\n' then some { records := r.records ++ [r.closedFields] }
  else none

/-- Takes a character.  Behind the closing quote of a field only a delimiter can stand. -/
def step? (r : Reader) (c : Char) : Option Reader :=
  match r.place with
  | .start =>
    if c = '"' then some { r with place := .quoted }
    else some ((r.delimit? c).getD (r.add c .plain))
  | .plain => some ((r.delimit? c).getD (r.add c .plain))
  | .quoted => if c = '"' then some { r with place := .closed } else some (r.add c .quoted)
  | .closed => if c = '"' then some (r.add c .quoted) else r.delimit? c

/-- `r.Takes cs r'` says the reader `r` takes the characters `cs` and is `r'` afterwards. -/
def Takes (r : Reader) (cs : List Char) (r' : Reader) : Prop :=
  cs.foldlM step? r = some r'

end Reader

/-- The records of a text, if it is one of records that each end with a line feed. -/
def read? (s : String) : Option (List (List String)) := do
  let r ← s.toList.foldlM Reader.step? {}
  if r.fields = [] ∧ r.place = .start then some r.records else none

/-! ### Runs of the reader -/

namespace Reader

variable {r r' r'' : Reader} {c : Char} {cs ds : List Char}

theorem Takes.refl (r : Reader) : r.Takes [] r := rfl

theorem Takes.append (h : r.Takes cs r') (h' : r'.Takes ds r'') : r.Takes (cs ++ ds) r'' := by
  rw [Takes, List.foldlM_append, h]
  exact h'

theorem Takes.cons (h : r.step? c = some r') (h' : r'.Takes cs r'') : r.Takes (c :: cs) r'' := by
  rw [Takes, List.foldlM_cons, h]
  exact h'

/-- Outside of quotes a delimiter ends the field. -/
theorem step?_of_delimit? (hplace : r.place ≠ .quoted) (h : r.delimit? c = some r') :
    r.step? c = some r' := by
  have hquote : c ≠ '"' := by
    rintro rfl
    exact absurd h (by simp [delimit?])
  cases hr : r.place with
  | start => simp only [step?, hr, if_neg hquote, h, Option.getD_some]
  | plain => simp only [step?, hr, h, Option.getD_some]
  | quoted => exact absurd hr hplace
  | closed => simp only [step?, hr, if_neg hquote, h]

/-- A character that needs no quotes is added to a field without quotes. -/
theorem step?_of_needsQuotes_eq_false (hplace : r.place = .start ∨ r.place = .plain)
    (hc : needsQuotes c = false) : r.step? c = some (r.add c .plain) := by
  simp only [needsQuotes, Bool.or_eq_false_iff, beq_eq_false_iff_ne] at hc
  obtain ⟨⟨⟨hcomma, hquote⟩, hlineFeed⟩, -⟩ := hc
  have hdelimit : r.delimit? c = none := by rw [delimit?, if_neg hcomma, if_neg hlineFeed]
  rcases hplace with hr | hr
  · simp only [step?, hr, if_neg hquote, hdelimit, Option.getD_none]
  · simp only [step?, hr, hdelimit, Option.getD_none]

end Reader

/-! ### One field -/

section Field

variable {r : Reader} {cs : List Char}

theorem doubleQuotes_cons (c : Char) (cs : List Char) :
    doubleQuotes (c :: cs) = (if c = '"' then ['"', '"'] else [c]) ++ doubleQuotes cs :=
  List.flatMap_cons

/-- Inside quotes every character is added to the field, and two quotes add one. -/
theorem takes_doubleQuotes (hplace : r.place = .quoted) :
    r.Takes (doubleQuotes cs) { r with text := r.text ++ cs } := by
  induction cs generalizing r with
  | nil =>
    rw [List.append_nil]
    exact .refl r
  | cons c cs ih =>
    have hadded :
        (r.add c .quoted).Takes (doubleQuotes cs) { r with text := r.text ++ c :: cs } := by
      have hrest := ih (r := r.add c .quoted) rfl
      simpa [Reader.add, hplace] using hrest
    rw [doubleQuotes_cons]
    by_cases hc : c = '"'
    · -- the reader passes through the place behind the first of the two quotes
      subst hc
      have hfirst : r.step? '"' = some { r with place := .closed } := by
        simp only [Reader.step?, hplace, if_true]
      exact .cons hfirst (.cons rfl hadded)
    · have hstep : r.step? c = some (r.add c .quoted) := by
        simp only [Reader.step?, hplace, if_neg hc]
      rw [if_neg hc]
      exact .cons hstep hadded

/-- A text that needs no quotes is added as it is. -/
theorem takes_of_needsQuotes (hplace : r.place = .start ∨ r.place = .plain)
    (h : ∀ c ∈ cs, needsQuotes c = false) :
    ∃ place ≠ .quoted, r.Takes cs { r with text := r.text ++ cs, place } := by
  induction cs generalizing r with
  | nil =>
    refine ⟨r.place, ?_, by rw [List.append_nil]; exact .refl r⟩
    rcases hplace with hr | hr <;> simp [hr]
  | cons c cs ih =>
    obtain ⟨hc, hcs⟩ := List.forall_mem_cons.1 h
    obtain ⟨place, hne, htakes⟩ := ih (r := r.add c .plain) (.inr rfl) hcs
    refine ⟨place, hne, .cons (Reader.step?_of_needsQuotes_eq_false hplace hc) ?_⟩
    simpa [Reader.add] using htakes

/-- The written form of a field leaves its text with the reader, outside of quotes. -/
theorem takes_fieldChars (records : List (List String)) (fields : List String) (cs : List Char) :
    ∃ place ≠ .quoted, Reader.Takes { records, fields } (fieldChars cs)
      { records, fields, text := cs, place } := by
  by_cases hquotes : cs.any needsQuotes
  · refine ⟨.closed, by decide, ?_⟩
    rw [fieldChars, if_pos hquotes]
    have hinside : Reader.Takes { records, fields, place := .quoted } (doubleQuotes cs)
        { records, fields, text := cs, place := .quoted } := takes_doubleQuotes rfl
    exact .cons rfl (hinside.append (.cons rfl (.refl _)))
  · -- such a field is written as it is
    rw [fieldChars, if_neg hquotes]
    rw [List.any_eq_true, not_exists] at hquotes
    refine takes_of_needsQuotes (r := { records, fields }) (.inl rfl) fun c hc => ?_
    exact Bool.eq_false_iff.2 fun hneeds => hquotes c ⟨hc, hneeds⟩

/-- A field is read with the delimiter behind it. -/
theorem takes_field {records : List (List String)} {fields : List String} {f : String} {c : Char}
    {r' : Reader} (h : Reader.delimit? { records, fields, text := f.toList } c = some r') :
    Reader.Takes { records, fields } ((field f).toList ++ [c]) r' := by
  obtain ⟨place, hne, htakes⟩ := takes_fieldChars records fields f.toList
  rw [field, String.toList_ofList]
  exact htakes.append (.cons (Reader.step?_of_delimit? hne h) (.refl r'))

/-- A text that needs no quotes has none. -/
theorem field_eq_self {s : String} (h : ∀ c ∈ s.toList, needsQuotes c = false) :
    field s = s := by
  have hany : ¬ s.toList.any needsQuotes := by
    rw [List.any_eq_true]
    rintro ⟨c, hc, hneeds⟩
    exact Bool.false_ne_true ((h c hc).symm.trans hneeds)
  rw [field, fieldChars, if_neg hany, String.ofList_toList]

theorem needsQuotes_eq_false_of_isDigit {c : Char} (h : c.isDigit) :
    needsQuotes c = false := by
  simp only [needsQuotes, Bool.or_eq_false_iff, beq_eq_false_iff_ne]
  refine ⟨⟨⟨?_, ?_⟩, ?_⟩, ?_⟩ <;> exact fun hc => absurd (hc ▸ h) (by decide)

end Field

/-! ### Records -/

theorem toList_line_singleton (f : String) : (line [f]).toList = (field f).toList ++ ['\n'] := by
  rw [line, List.map_singleton, String.intercalate_singleton, String.toList_append]
  rfl

theorem toList_line_cons_cons (f g : String) (fields : List String) :
    (line (f :: g :: fields)).toList =
      ((field f).toList ++ [',']) ++ (line (g :: fields)).toList := by
  rw [line, line, List.map_cons, List.map_cons, String.intercalate_cons_cons, String.append_assoc,
    String.toList_append, String.toList_append]
  rfl

/-- A record is read up to its line feed. -/
theorem takes_line {fields : List String} (hne : fields ≠ []) (records : List (List String))
    (before : List String) :
    Reader.Takes { records, fields := before } (line fields).toList
      { records := records ++ [before ++ fields] } := by
  induction fields generalizing before with
  | nil => exact absurd rfl hne
  | cons f fields ih =>
    cases fields with
    | nil =>
      rw [toList_line_singleton]
      refine takes_field ?_
      simp [Reader.delimit?, Reader.closedFields]
    | cons g fields =>
      have hcomma : Reader.delimit? { records, fields := before, text := f.toList } ',' =
          some { records, fields := before ++ [f] } := by
        simp [Reader.delimit?, Reader.closedFields]
      rw [toList_line_cons_cons, List.append_cons before]
      exact (takes_field hcomma).append (ih (List.cons_ne_nil g fields) (before ++ [f]))

/-- Records are read one after the other. -/
theorem takes_document {records : List (List String)} (h : ∀ fields ∈ records, fields ≠ [])
    (before : List (List String)) :
    Reader.Takes { records := before } (document records).toList
      { records := before ++ records } := by
  induction records generalizing before with
  | nil =>
    rw [List.append_nil]
    exact .refl _
  | cons fields records ih =>
    obtain ⟨hfields, hrecords⟩ := List.forall_mem_cons.1 h
    have hdocument : (document (fields :: records)).toList =
        (line fields).toList ++ (document records).toList := by
      rw [document, List.map_cons, String.join_cons, String.toList_append]
      rfl
    rw [hdocument, List.append_cons before]
    exact (takes_line hfields before []).append (ih hrecords (before ++ [fields]))

/-- Records that are written and read again are the same, if each has a field. -/
theorem read?_document {records : List (List String)} (h : ∀ fields ∈ records, fields ≠ []) :
    read? (document records) = some records := by
  have htakes : (document records).toList.foldlM Reader.step? {} = some { records } :=
    takes_document h []
  rw [read?, htakes]
  rfl

example : read? (document [["a,b", ""], ["\"c\"\r\nd"]]) = some [["a,b", ""], ["\"c\"\r\nd"]] := by
  decide

end Csv

/-! ### Reports -/

/-- In the line of an entry only the command and the message can have quotes around them. -/
theorem Record.line_fields (r : Record) :
    Csv.line r.fields =
      ",".intercalate
          [Csv.field r.command, toString r.success, Csv.field r.message,
            (r.assignedId.map RowId.toText).getD "", (r.error.map ErrorKind.label).getD ""] ++
        "\n" := by
  have hsuccess (b : Bool) : Csv.field (toString b) = toString b := by cases b <;> decide
  have hid (id : Option RowId) :
      Csv.field ((id.map RowId.toText).getD "") = (id.map RowId.toText).getD "" := by
    cases id with
    | none => rfl
    | some id =>
      exact Csv.field_eq_self fun c hc =>
        Csv.needsQuotes_eq_false_of_isDigit (RowId.isDigit_of_mem_toText hc)
  have herror (kind : Option ErrorKind) :
      Csv.field ((kind.map ErrorKind.label).getD "") = (kind.map ErrorKind.label).getD "" := by
    rcases kind with _ | kind
    · rfl
    · cases kind <;> decide
  simp only [Csv.line, Record.fields, List.map_cons, List.map_nil, hsuccess, hid, herror]

/-- A reader gives back the header and the rows of every grid in which none of them is empty, and
the entries of every log. -/
theorem reports_read_back {header : List String} {rows : List (List String)}
    (hheader : header ≠ []) (hrows : ∀ row ∈ rows, row ≠ []) (records : List Record) :
    Csv.read? (formatGrid header rows .csv) = some (header :: rows) ∧
      Csv.read? (formatRecords records .csv) =
        some (["command", "success", "message", "assigned_id", "error"] ::
          records.map fun r =>
            [r.command, if r.success then "true" else "false", r.message,
              match r.assignedId with
              | some id => id.toText
              | none => "",
              match r.error with
              | some kind => kind.label
              | none => ""]) := by
  constructor
  · exact Csv.read?_document (List.forall_mem_cons.2 ⟨hheader, hrows⟩)
  · have hentries : ∀ fields ∈ records.map Record.fields, fields ≠ [] := by
      intro fields hfields
      obtain ⟨r, -, rfl⟩ := List.mem_map.1 hfields
      exact List.cons_ne_nil _ _
    have hread : Csv.read? (formatRecords records .csv) =
        some (recordFieldNames :: records.map Record.fields) :=
      Csv.read?_document (List.forall_mem_cons.2 ⟨List.cons_ne_nil _ _, hentries⟩)
    rw [hread]
    refine congrArg some (congrArg _ (List.map_congr_left fun r _ => ?_))
    obtain ⟨command, success, message, id, error⟩ := r
    cases success <;> cases id <;> cases error <;> rfl

/-- A grid with all that needs quotes in its cells, and with empty ones. -/
def awkwardGrid : List String × List (List String) :=
  (["dog,id", "\"breed\""], [["", "\",\"\n"], [""], ["Rex\r\n", "", "a \"b\" c"]])

theorem reports_read_back_awkwardGrid :
    awkwardGrid.1 ≠ [] ∧ (∀ row ∈ awkwardGrid.2, row ≠ []) ∧
      formatGrid awkwardGrid.1 awkwardGrid.2 .csv =
        "\"dog,id\",\"\"\"breed\"\"\"\n,\"\"\",\"\"\n\"\n\n\"Rex\r\n\",,\"a \"\"b\"\" c\"\n" ∧
      Csv.read? (formatGrid awkwardGrid.1 awkwardGrid.2 .csv) =
        some (awkwardGrid.1 :: awkwardGrid.2) := by
  have hheader : awkwardGrid.1 ≠ [] := List.cons_ne_nil _ _
  have hrows : ∀ row ∈ awkwardGrid.2, row ≠ [] := by decide
  exact ⟨hheader, hrows, by decide, (reports_read_back hheader hrows []).1⟩

end DogRegistry
