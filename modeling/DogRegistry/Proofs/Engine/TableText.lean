import DogRegistry.Proofs.Engine.Search
import DogRegistry.Proofs.Table

/-!
# The index of a table text

An index can also be built from the text of a table, which is trimmed and cut into lines, the first
of which is the header.  Reading the table first and building the index from its rows drops blank
lines instead and trims nothing.  The two agree: trimming takes away whole lines that are blank, the
blanks in front of the header, and blanks behind the last row, where they do not count.

## Main results

* `filterMap_tail_splitOn_trimChars` — the lines of a trimmed text give what the lines of the text
  give that are not blank, the header apart.
* `entryOfLine?_trimCharsEnd` — blanks at the end of a line do not count.
* `Tree.ofTableText_eq` — what the index of a text holds.
* `Engine.ofTableText_eq_rebuildIndex` — the index of a text is the index over the table that is
  read from it, and the index over a table is that of its text if the text gives the table back.
-/

namespace DogRegistry

open Text

/-! ### Lines of a trimmed text -/

section Lines

variable {β : Type} {f : List Char → Option β}

/-- The blanks in front of a text are lines of their own or belong to its first line. -/
theorem filterMap_tail_splitOn_dropWhile (hblank : ∀ line, line.all isBlank → f line = none)
    (cs : List Char) :
    ((cs.dropWhile isBlank).splitOn '\n').tail.filterMap f =
      ((cs.splitOn '\n').filter fun line => !line.all isBlank).tail.filterMap f := by
  induction hlength : cs.length using Nat.strong_induction_on generalizing cs with
  | _ n ih =>
    by_cases hmem : '\n' ∈ cs
    · obtain ⟨line, rest, rfl, hline⟩ := List.eq_append_cons_of_mem hmem
      have hcut : (line ++ '\n' :: rest).splitOn '\n' = line :: rest.splitOn '\n' := by
        rw [List.splitOn_append_cons_self, List.splitOn_eq_singleton hline, List.singleton_append]
      have hlineFeed : isBlank '\n' := by decide
      rw [hcut, dropWhile_isBlank_append]
      by_cases hall : line.all isBlank
      · -- the first line is blank, and goes with its line feed
        have hrest : rest.length < n := by
          rw [← hlength, List.length_append, List.length_cons]
          omega
        rw [if_pos hall, List.dropWhile_cons, if_pos hlineFeed, ih _ hrest rest rfl,
          List.filter_cons, hall, Bool.not_true, if_neg Bool.false_ne_true]
      · -- the first line is the header
        have hdrop : '\n' ∉ line.dropWhile isBlank := fun h =>
          hline ((List.dropWhile_sublist isBlank).mem h)
        have hnone : ∀ l, (if !l.all isBlank then f l else none) = f l := by
          intro l
          by_cases hl : l.all isBlank
          · simp [hl, hblank l hl]
          · simp [hl]
        rw [if_neg hall, List.splitOn_append_cons_self, List.splitOn_eq_singleton hdrop,
          List.filter_cons, Bool.eq_false_iff.2 hall, Bool.not_false, if_pos rfl, List.tail_cons,
          List.singleton_append, List.tail_cons, List.filterMap_filter]
        simp only [hnone]
    · have hdrop : '\n' ∉ cs.dropWhile isBlank := fun h =>
        hmem ((List.dropWhile_sublist isBlank).mem h)
      rw [List.splitOn_eq_singleton hmem, List.splitOn_eq_singleton hdrop, List.filter_singleton]
      cases !cs.all isBlank <;> rfl

/-- The blanks behind a text are lines of their own or belong to its last line. -/
theorem filterMap_tail_splitOn_trimCharsEnd (hblank : ∀ line, line.all isBlank → f line = none)
    (hend : ∀ line, f (trimCharsEnd line) = f line) (cs : List Char) :
    ((trimCharsEnd cs).splitOn '\n').tail.filterMap f = (cs.splitOn '\n').tail.filterMap f := by
  induction hlength : cs.length using Nat.strong_induction_on generalizing cs with
  | _ n ih =>
    by_cases hmem : '\n' ∈ cs
    · -- the line feed in front of the last line is the first one from behind
      obtain ⟨back, front, hback, hlast⟩ := List.eq_append_cons_of_mem (List.mem_reverse.2 hmem)
      obtain ⟨last, rest, rfl, hlast⟩ : ∃ last rest, cs = rest ++ '\n' :: last ∧ '\n' ∉ last := by
        refine ⟨back.reverse, front.reverse, ?_, fun h => hlast (List.mem_reverse.1 h)⟩
        have hcs := congrArg List.reverse hback
        rwa [List.reverse_reverse, List.reverse_append, List.reverse_cons, List.append_assoc,
          List.singleton_append] at hcs
      have hne : rest.splitOn '\n' ≠ [] := List.splitOn_ne_nil '\n' rest
      have hlineFeed : isBlank '\n' := by decide
      rw [trimCharsEnd_append, List.splitOn_append_cons_self, List.splitOn_eq_singleton hlast,
        List.tail_append_of_ne_nil hne, List.filterMap_append, List.all_cons, hlineFeed,
        Bool.true_and]
      by_cases hall : last.all isBlank
      · have hrest : rest.length < n := by
          rw [← hlength, List.length_append, List.length_cons]
          omega
        rw [if_pos hall, ih _ hrest rest rfl, List.filterMap_cons, hblank last hall]
        simp
      · have hcut := trimCharsEnd_append ['\n'] last
        rw [if_neg hall, List.singleton_append, List.singleton_append] at hcut
        have htrim : '\n' ∉ trimCharsEnd last := fun h =>
          hlast ((trimCharsEnd_sublist last).mem h)
        rw [if_neg hall, hcut, List.splitOn_append_cons_self, List.splitOn_eq_singleton htrim,
          List.tail_append_of_ne_nil hne, List.filterMap_append, List.filterMap_cons,
          List.filterMap_cons, hend]
    · have htrim : '\n' ∉ trimCharsEnd cs := fun h => hmem ((trimCharsEnd_sublist cs).mem h)
      rw [List.splitOn_eq_singleton hmem, List.splitOn_eq_singleton htrim]
      rfl

/-- The lines of a trimmed text give what the lines of the text give that are not blank, the header
apart. -/
theorem filterMap_tail_splitOn_trimChars (hblank : ∀ line, line.all isBlank → f line = none)
    (hend : ∀ line, f (trimCharsEnd line) = f line) (cs : List Char) :
    ((trimChars cs).splitOn '\n').tail.filterMap f =
      ((cs.splitOn '\n').filter fun line => !line.all isBlank).tail.filterMap f := by
  rw [trimChars, filterMap_tail_splitOn_trimCharsEnd hblank hend,
    filterMap_tail_splitOn_dropWhile hblank]

end Lines

/-! ### Entries of lines -/

/-- The entry of an index depends on its key without the blanks around it. -/
theorem indexEntry?_congr {id key key' : String} (h : trim key = trim key') :
    indexEntry? id key = indexEntry? id key' := by
  have hblank : isBlankText key = isBlankText key' := by
    rw [Bool.eq_iff_iff, ← trim_eq_empty_iff, ← trim_eq_empty_iff, h]
  unfold indexEntry?
  rw [hblank, h]

/-- What the index holds for a line, if anything. -/
def entryOfLine? (line : List Char) : Option (String × RowId) :=
  entryOf? (Table.lineCells (String.ofList line))

theorem lineCells_ofList (line : List Char) :
    Table.lineCells (String.ofList line) = (line.splitOn ',').map String.ofList := by
  rw [Table.lineCells, splitAtChar, String.toList_ofList]

/-- A line without a comma has one cell. -/
theorem entryOfLine?_of_not_mem {line : List Char} (h : ',' ∉ line) :
    entryOfLine? line = none := by
  rw [entryOfLine?, lineCells_ofList, List.splitOn_eq_singleton h]
  rfl

/-- A blank line has no entry. -/
theorem entryOfLine?_of_blank {line : List Char} (h : line.all isBlank) :
    entryOfLine? line = none :=
  entryOfLine?_of_not_mem fun hmem => absurd (List.all_eq_true.1 h ',' hmem) (by decide)

/-- The first two cells of a line: up to the first comma, and from there up to the next. -/
theorem entryOfLine?_append {id key : List Char} (hid : ',' ∉ id) (hkey : ',' ∉ key)
    (more : List Char) (hmore : more = [] ∨ ∃ cells, more = ',' :: cells) :
    entryOfLine? (id ++ ',' :: (key ++ more)) =
      indexEntry? (String.ofList id) (String.ofList key) := by
  rw [entryOfLine?, lineCells_ofList, List.splitOn_append_cons_self, List.splitOn_eq_singleton hid]
  rcases hmore with rfl | ⟨cells, rfl⟩
  · rw [List.append_nil, List.splitOn_eq_singleton hkey]
    rfl
  · rw [List.splitOn_append_cons_self, List.splitOn_eq_singleton hkey]
    rfl

/-- A comma is not a blank, so what stands in front of one is not trimmed. -/
theorem trimCharsEnd_append_comma (cs ds : List Char) :
    trimCharsEnd (cs ++ ',' :: ds) = cs ++ ',' :: trimCharsEnd ds := by
  have hcomma : isBlank ',' = false := by decide
  have htail : trimCharsEnd (',' :: ds) = ',' :: trimCharsEnd ds := by
    rw [← List.singleton_append, trimCharsEnd_append]
    split
    next hblank =>
      rw [(trimCharsEnd_eq_nil_iff ds).2 (List.all_eq_true.1 hblank)]
      rfl
    next => rfl
  rw [trimCharsEnd_append, List.all_cons, hcomma, Bool.false_and, if_neg Bool.false_ne_true, htail]

/-- Blanks at the end of a line do not count. -/
theorem entryOfLine?_trimCharsEnd (line : List Char) :
    entryOfLine? (trimCharsEnd line) = entryOfLine? line := by
  by_cases hmem : ',' ∈ line
  · obtain ⟨id, rest, rfl, hid⟩ := List.eq_append_cons_of_mem hmem
    rw [trimCharsEnd_append_comma]
    by_cases hrest : ',' ∈ rest
    · -- the blanks stand behind the first two cells
      obtain ⟨key, more, rfl, hkey⟩ := List.eq_append_cons_of_mem hrest
      rw [trimCharsEnd_append_comma, entryOfLine?_append hid hkey _ (.inr ⟨_, rfl⟩),
        entryOfLine?_append hid hkey _ (.inr ⟨_, rfl⟩)]
    · -- the blanks belong to the key
      have htrim : ',' ∉ trimCharsEnd rest := fun h => hrest ((trimCharsEnd_sublist rest).mem h)
      have hkey := entryOfLine?_append hid hrest [] (.inl rfl)
      have hkey' := entryOfLine?_append hid htrim [] (.inl rfl)
      rw [List.append_nil] at hkey hkey'
      rw [hkey, hkey']
      apply indexEntry?_congr
      rw [trim, trim, String.toList_ofList, String.toList_ofList, trimChars_trimCharsEnd]
  · have htrim : ',' ∉ trimCharsEnd line := fun h => hmem ((trimCharsEnd_sublist line).mem h)
    rw [entryOfLine?_of_not_mem hmem, entryOfLine?_of_not_mem htrim]

/-! ### The index of a text -/

/-- The index of a text holds the entries of the lines behind the header. -/
theorem Tree.ofTableText_eq (config : IndexConfig) (text : String) :
    Tree.ofTableText config text =
      Tree.ofEntries config
        (((trimChars text.toList).splitOn '\n').tail.filterMap entryOfLine?) := by
  rw [Tree.ofTableText, Tree.ofCells, List.filterMap_filterMap, List.filterMap_filter, splitAtChar,
    toList_trim, ← List.map_tail, List.filterMap_map]
  congr 1
  refine List.filterMap_congr ?_
  intro line _
  rw [Function.comp_apply, isBlankText, String.toList_ofList]
  split
  next => rfl
  next h =>
    have hblank : line.all isBlank := by simpa using h
    rw [entryOfLine?_of_blank hblank]

/-- The rows of a table that is read from a text have the entries of the lines behind the header. -/
theorem filterMap_entryOf?_of_parse {text : String} {t : Table} (h : Table.parse text = .ok t) :
    t.rows.filterMap entryOf? =
      ((text.toList.splitOn '\n').filter fun line => !line.all isBlank).tail.filterMap
        entryOfLine? := by
  obtain ⟨header, rows, hlines, rfl⟩ := Table.exists_lines_of_parse h
  have hfilter : ((fun line => !isBlankText line) ∘ String.ofList) =
      fun line : List Char => !line.all isBlank := by
    funext line
    rw [Function.comp_apply, isBlankText, String.toList_ofList]
  rw [splitAtChar, List.filter_map, hfilter] at hlines
  have htail := congrArg List.tail hlines
  rw [← List.map_tail, List.tail_cons] at htail
  rw [← htail, List.map_map, List.filterMap_map]
  rfl

namespace Engine

variable (e : Engine)

/-- The index of a text is the index over the table that is read from it. -/
theorem ofTableText_of_parse {text : String} {s : Store} (h : Table.parse text = .ok s.dogs) :
    Tree.ofTableText e.config text = e.rebuildIndex s := by
  rw [Tree.ofTableText_eq, rebuildIndex_eq, filterMap_entryOf?_of_parse h,
    filterMap_tail_splitOn_trimChars (fun _ => entryOfLine?_of_blank) entryOfLine?_trimCharsEnd]

/-- The index of a text is, node for node, the index over a store whose dogs are read from that
text.  So the index over a store is that of the text of its dogs, if the dogs can be read from it
again. -/
theorem ofTableText_eq_rebuildIndex (s : Store) :
    (∀ text, Table.parse text = .ok s.dogs →
        Tree.ofTableText e.config text = e.rebuildIndex s) ∧
      (Table.parse s.dogs.toText = .ok s.dogs →
        Tree.ofTableText e.config s.dogs.toText = e.rebuildIndex s) :=
  ⟨fun _ h => e.ofTableText_of_parse h, fun h => e.ofTableText_of_parse h⟩

/-- A text of dogs with blank lines in front of the header, a blank header cell, a row without a
key, a row with a single cell, one whose key is blank, and blanks behind the last row. -/
def raggedText : String :=
  "\r\n \u00a0\n dog_id,breed\n1, Pug \n\n2\nx,Pug\n3, \t\n" ++
    "4,Collie,Rex\n5,Akita\n6,Pug\n7,Beagle \t\n \n"

/-- A store with the dogs of that text. -/
def raggedStore : Store where
  owners := Store.empty.owners
  dogs :=
    { header := [" dog_id", "breed"]
      rows := [["1", " Pug "], ["2"], ["x", "Pug"], ["3", " \t"], ["4", "Collie", "Rex"],
        ["5", "Akita"], ["6", "Pug"], ["7", "Beagle \t"]] }

/-- The smallest nodes, all of which are split when they are full. -/
def splitting : Engine :=
  ⟨⟨3, .recursive⟩, by decide⟩

theorem ofTableText_raggedText :
    Table.parse raggedText = .ok raggedStore.dogs ∧
      Table.parse raggedStore.dogs.toText = .ok raggedStore.dogs ∧
      Tree.ofTableText splitting.config raggedText = splitting.rebuildIndex raggedStore ∧
      Tree.ofTableText splitting.config raggedStore.dogs.toText =
        splitting.rebuildIndex raggedStore := by
  have htext : Table.parse raggedText = .ok raggedStore.dogs := by decide +kernel
  have hown : Table.parse raggedStore.dogs.toText = .ok raggedStore.dogs := by decide +kernel
  obtain ⟨hany, hself⟩ := ofTableText_eq_rebuildIndex splitting raggedStore
  exact ⟨htext, hown, hany raggedText htext, hself hown⟩

end Engine

end DogRegistry
