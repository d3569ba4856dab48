import DogRegistry.Proofs.Statement.Tuples
import DogRegistry.Proofs.Text.Word
import Mathlib.Data.List.Forall2

/-!
# The grammar of tuples

A tuple is written as a group: an opening parenthesis, at least one character, and the next closing
parenthesis.  The groups of a text are found from left to right, each one at the first place where a
group begins, and the search goes on behind it.  Whatever else stands in the text is passed over.
The content of a group is cut at its commas, and every piece is a value, with blanks around it and
with or without quotes.

## Main definitions

* `BeginsGroup cs content rest` — a group stands at the front of a text.
* `GroupsIn cs contents` — the groups of a text, found from left to right.
* `InQuotes cs`, `IsValue raw value` — texts in quotes, and the value that is written in some way.
* `IsTuple content values` — the values of a group.
* `Closed front` — no parenthesis is open at the end of a text.

## Main results

* `groups_cons_of_not_beginsGroup`, `groups_of_beginsGroup` — how the reader takes one step.
* `groupsIn_iff` — the groups that are read are those of the grammar.
* `groups_append` — a text may be cut where no parenthesis is open.
* `groups_intercalate` — groups that are written one after the other are found again.
* `isValue_iff`, `isTuple_iff` — the values that are read are those of the grammar.
* `tuples_grammar` — so are the tuples of a text, and what stands between them makes no difference.
-/

namespace DogRegistry

open Text

/-! ### One step of the reader -/

/-- The reader in terms of the texts behind the next two parentheses. -/
theorem groups_eq (cs : List Char) :
    groups cs =
      match cs.dropWhile (· != '(') with
      | [] => []
      | _ :: body =>
        match body.dropWhile (· != ')') with
        | [] => []
        | _ :: rest =>
          if body.takeWhile (· != ')') = [] then groups body
          else body.takeWhile (· != ')') :: groups rest := by
  rw [groups]
  split
  next hopened => rw [hopened]
  next hopened =>
    rw [hopened]
    split
    next hclosed => simp only [hclosed]
    next hclosed => simp only [hclosed]

theorem groups_nil : groups [] = [] := by
  rw [groups_eq]
  rfl

/-- Other characters than opening parentheses are passed over. -/
theorem groups_cons_of_ne {c : Char} (h : c ≠ '(') (cs : List Char) :
    groups (c :: cs) = groups cs := by
  have hdrop : (c :: cs).dropWhile (· != '(') = cs.dropWhile (· != '(') :=
    List.dropWhile_cons_of_pos (bne_iff_ne.2 h)
  rw [groups_eq, hdrop, ← groups_eq]

/-- An opening parenthesis that is not closed ends the search. -/
theorem groups_open_of_not_mem {body : List Char} (h : ')' ∉ body) : groups ('(' :: body) = [] := by
  have hclosed : body.dropWhile (· != ')') = [] := by
    refine List.dropWhile_eq_nil_iff.2 fun c hc => bne_iff_ne.2 ?_
    rintro rfl
    exact h hc
  rw [groups_eq, List.dropWhile_cons_of_neg (by decide)]
  simp only [hclosed]

/-- An opening parenthesis and the next closing one enclose a group, unless nothing stands between
them. -/
theorem groups_open {content : List Char} (h : ')' ∉ content) (rest : List Char) :
    groups ('(' :: (content ++ ')' :: rest)) =
      if content = [] then groups rest else content :: groups rest := by
  obtain ⟨hcontent, hrest⟩ : (content ++ ')' :: rest).takeWhile (· != ')') = content ∧
      (content ++ ')' :: rest).dropWhile (· != ')') = ')' :: rest := by
    refine takeWhile_append_of_stop (fun c hc => bne_iff_ne.2 ?_) ?_
    · rintro rfl
      exact h hc
    · rintro c ⟨⟩
      decide
  rw [groups_eq, List.dropWhile_cons_of_neg (by decide)]
  simp only [hcontent, hrest]
  split
  next hnil => rw [hnil, List.nil_append, groups_cons_of_ne (by decide)]
  next => rfl

/-- Without a closing parenthesis there is no group. -/
theorem groups_of_closing_not_mem {cs : List Char} (h : ')' ∉ cs) : groups cs = [] := by
  induction cs with
  | nil => exact groups_nil
  | cons c cs ih =>
    have htail : ')' ∉ cs := fun hmem => h (List.mem_cons_of_mem c hmem)
    by_cases hc : c = '('
    · rw [hc]
      exact groups_open_of_not_mem htail
    · rw [groups_cons_of_ne hc]
      exact ih htail

/-- Text without an opening parenthesis is passed over. -/
theorem groups_append_of_not_mem {gap : List Char} (h : '(' ∉ gap) (rest : List Char) :
    groups (gap ++ rest) = groups rest := by
  induction gap with
  | nil => rfl
  | cons c gap ih =>
    obtain ⟨hc, hgap⟩ := not_or.1 (mt List.mem_cons.2 h)
    rw [List.cons_append, groups_cons_of_ne (Ne.symm hc)]
    exact ih hgap

/-- Nor does text without a closing parenthesis make a difference behind other text. -/
theorem groups_append_of_closing_not_mem {gap : List Char} (h : ')' ∉ gap) (cs : List Char) :
    groups (cs ++ gap) = groups cs := by
  cases cs with
  | nil => rw [List.nil_append, groups_of_closing_not_mem h, groups_nil]
  | cons c cs =>
    by_cases hc : c = '('
    · subst hc
      by_cases hclosing : ')' ∈ cs
      · obtain ⟨content, rest, rfl, hcontent⟩ := List.eq_append_cons_of_mem hclosing
        have hrest := groups_append_of_closing_not_mem h rest
        rw [List.cons_append, List.append_assoc, List.cons_append, groups_open hcontent,
          groups_open hcontent, hrest]
      · have hboth : ')' ∉ cs ++ gap := by
          rw [List.mem_append]
          exact not_or.2 ⟨hclosing, h⟩
        rw [List.cons_append, groups_open_of_not_mem hboth, groups_open_of_not_mem hclosing]
    · rw [List.cons_append, groups_cons_of_ne hc, groups_cons_of_ne hc]
      exact groups_append_of_closing_not_mem h cs
termination_by cs.length

/-! ### Groups -/

/-- `BeginsGroup cs content rest` says `cs` begins with a group, which has the given content, and
`rest` is the text behind it.  Of parentheses only opening ones may stand in a content. -/
structure BeginsGroup (cs content rest : List Char) : Prop where
  /-- The content stands between parentheses. -/
  eq : cs = '(' :: (content ++ ')' :: rest)
  /-- The content is not empty. -/
  content_ne_nil : content ≠ []
  /-- The group ends at the first closing parenthesis. -/
  closing_not_mem : ')' ∉ content

/-- `GroupsIn cs contents` says the groups of `cs`, from left to right, have the given contents. -/
inductive GroupsIn : List Char → List (List Char) → Prop
  /-- No group begins anywhere in the text. -/
  | nil {cs : List Char} (h : ∀ k content rest, ¬ BeginsGroup (cs.drop k) content rest) :
    GroupsIn cs []
  /-- A group begins behind some characters, none begins before it, and the other groups are those
  of the text behind it. -/
  | cons {cs content rest : List Char} {contents : List (List Char)} {k : Nat}
      (hgroup : BeginsGroup (cs.drop k) content rest)
      (hfirst : ∀ j < k, ∀ content' rest', ¬ BeginsGroup (cs.drop j) content' rest')
      (hrest : GroupsIn rest contents) : GroupsIn cs (content :: contents)

/-- A group at the front of the text is read first. -/
theorem groups_of_beginsGroup {cs content rest : List Char} (h : BeginsGroup cs content rest) :
    groups cs = content :: groups rest := by
  rw [h.eq, groups_open h.closing_not_mem, if_neg h.content_ne_nil]

/-- A character is passed over if no group begins with it. -/
theorem groups_cons_of_not_beginsGroup {c : Char} {cs : List Char}
    (h : ∀ content rest, ¬ BeginsGroup (c :: cs) content rest) :
    groups (c :: cs) = groups cs := by
  by_cases hc : c = '('
  · subst hc
    by_cases hclosing : ')' ∈ cs
    · obtain ⟨content, rest, rfl, hcontent⟩ := List.eq_append_cons_of_mem hclosing
      -- nothing stands between the parentheses, or else a group would
      obtain rfl : content = [] :=
        Classical.byContradiction fun hne => h content rest ⟨rfl, hne, hcontent⟩
      rw [groups_open hcontent, if_pos rfl, List.nil_append, groups_cons_of_ne (by decide)]
    · rw [groups_open_of_not_mem hclosing, groups_of_closing_not_mem hclosing]
  · exact groups_cons_of_ne hc cs

/-- So are several characters if no group begins with any of them. -/
theorem groups_drop {cs : List Char} {k : Nat}
    (h : ∀ j < k, ∀ content rest, ¬ BeginsGroup (cs.drop j) content rest) :
    groups (cs.drop k) = groups cs := by
  induction k generalizing cs with
  | zero => rfl
  | succ k ih =>
    cases cs with
    | nil => rfl
    | cons c cs =>
      have hhead : groups (c :: cs) = groups cs :=
        groups_cons_of_not_beginsGroup fun content rest => h 0 k.succ_pos content rest
      have htail : groups (cs.drop k) = groups cs :=
        ih fun j hj content rest => h (j + 1) (Nat.succ_lt_succ hj) content rest
      rw [List.drop_succ_cons, htail, hhead]

theorem BeginsGroup.length_lt {cs content rest : List Char} {k : Nat}
    (h : BeginsGroup (cs.drop k) content rest) : rest.length < cs.length := by
  have hlength := congrArg List.length h.eq
  simp only [List.length_drop, List.length_cons, List.length_append] at hlength
  omega

/-- The groups that are read are groups of the text. -/
theorem groupsIn_groups (cs : List Char) : GroupsIn cs (groups cs) := by
  classical
  by_cases h : ∃ k content rest, BeginsGroup (cs.drop k) content rest
  · -- the first place where a group begins
    obtain ⟨content, rest, hgroup⟩ := Nat.find_spec h
    have hfirst : ∀ j < Nat.find h, ∀ content' rest',
        ¬ BeginsGroup (cs.drop j) content' rest' := fun j hj content' rest' hbegins =>
      Nat.find_min h hj ⟨content', rest', hbegins⟩
    have hshorter := hgroup.length_lt
    rw [← groups_drop hfirst, groups_of_beginsGroup hgroup]
    exact .cons hgroup hfirst (groupsIn_groups rest)
  · have hnone : ∀ k content rest, ¬ BeginsGroup (cs.drop k) content rest :=
      fun k content rest hbegins => h ⟨k, content, rest, hbegins⟩
    have hnil : groups (cs.drop cs.length) = groups cs :=
      groups_drop fun j _ content rest => hnone j content rest
    rw [← hnil, List.drop_length, groups_nil]
    exact .nil hnone
termination_by cs.length

/-- And no other groups are. -/
theorem groupsIn_iff {cs : List Char} {contents : List (List Char)} :
    GroupsIn cs contents ↔ contents = groups cs := by
  constructor
  · intro h
    induction h with
    | @nil cs hnone =>
      have hnil : groups (cs.drop cs.length) = groups cs :=
        groups_drop fun j _ content rest => hnone j content rest
      rw [← hnil, List.drop_length, groups_nil]
    | cons hgroup hfirst _ ih => rw [← groups_drop hfirst, groups_of_beginsGroup hgroup, ih]
  · rintro rfl
    exact groupsIn_groups cs

/-! ### Texts in parts -/

/-- `Closed front` says every opening parenthesis of `front` is followed by a closing one, so that no
group is open at its end. -/
def Closed (front : List Char) : Prop :=
  ∀ before after, front = before ++ '(' :: after → ')' ∈ after

/-- A text that ends with a closing parenthesis is closed. -/
theorem closed_append_closing (front : List Char) : Closed (front ++ [')']) := by
  intro before after heq
  rcases List.append_eq_append_iff.1 heq with ⟨as, -, hopen⟩ | ⟨bs, -, hopen⟩
  · -- the closing parenthesis would be an opening one
    have hmem : '(' ∈ [')'] := by
      rw [hopen]
      exact List.mem_append_right as List.mem_cons_self
    exact absurd hmem (by decide)
  · cases bs with
    | nil => exact absurd (List.cons.inj hopen).1 (by decide)
    | cons b bs =>
      obtain ⟨-, rfl⟩ := List.cons.inj hopen
      exact List.mem_append_right bs List.mem_cons_self

theorem Closed.of_append {back : List Char} (front : List Char) (h : Closed (front ++ back)) :
    Closed back := by
  rintro before after rfl
  exact h (front ++ before) after (List.append_assoc front before _).symm

/-- What stands behind a closed text does not make a group begin at its front. -/
theorem BeginsGroup.of_append {c : Char} {cs back content rest : List Char}
    (h : BeginsGroup (c :: cs ++ back) content rest) (hclosed : Closed (c :: cs)) :
    ∃ rest', BeginsGroup (c :: cs) content rest' ∧ rest = rest' ++ back := by
  obtain ⟨rfl, heq⟩ := List.cons.inj h.eq
  have hclosing : ')' ∈ cs := hclosed [] cs rfl
  rcases List.append_eq_append_iff.1 heq with ⟨as, hcontent, -⟩ | ⟨bs, hcs, hback⟩
  · -- the content would reach over the closing parenthesis
    rw [hcontent] at h
    exact absurd (List.mem_append_left as hclosing) h.closing_not_mem
  · cases bs with
    | nil =>
      rw [List.append_nil] at hcs
      exact absurd (hcs ▸ hclosing) h.closing_not_mem
    | cons b rest' =>
      obtain ⟨rfl, rfl⟩ := List.cons.inj hback
      exact ⟨rest', ⟨by rw [hcs], h.content_ne_nil, h.closing_not_mem⟩, rfl⟩

/-- A text may be cut where no parenthesis is open. -/
theorem groups_append {front : List Char} (h : Closed front) (back : List Char) :
    groups (front ++ back) = groups front ++ groups back := by
  cases front with
  | nil => rw [groups_nil, List.nil_append, List.nil_append]
  | cons c cs =>
    by_cases hbegins : ∃ content rest, BeginsGroup (c :: cs) content rest
    · obtain ⟨content, rest, hgroup⟩ := hbegins
      have hlength : rest.length < (c :: cs).length := hgroup.length_lt (k := 0)
      have hrest : Closed rest := by
        refine Closed.of_append ('(' :: (content ++ [')'])) ?_
        rwa [hgroup.eq, List.append_cons content] at h
      have hwhole : BeginsGroup (c :: cs ++ back) content (rest ++ back) :=
        ⟨by rw [hgroup.eq]; simp, hgroup.content_ne_nil, hgroup.closing_not_mem⟩
      rw [groups_of_beginsGroup hwhole, groups_of_beginsGroup hgroup, groups_append hrest back,
        List.cons_append]
    · have hnone : ∀ content rest, ¬ BeginsGroup (c :: cs) content rest :=
        fun content rest hgroup => hbegins ⟨content, rest, hgroup⟩
      have hnone' : ∀ content rest, ¬ BeginsGroup (c :: (cs ++ back)) content rest := by
        intro content rest hgroup
        obtain ⟨rest', hgroup', -⟩ := BeginsGroup.of_append hgroup h
        exact hnone content rest' hgroup'
      have hcs : Closed cs := Closed.of_append [c] h
      rw [List.cons_append, groups_cons_of_not_beginsGroup hnone',
        groups_cons_of_not_beginsGroup hnone, groups_append hcs back]
termination_by front.length

/-- Groups that are written one after the other are found again, apart from empty ones. -/
theorem groups_intercalate {sep : String} (hsep : '(' ∉ sep.toList) {bodies : List String}
    (h : ∀ body ∈ bodies, ')' ∉ body.toList) :
    groups (sep.intercalate (bodies.map fun body => "(" ++ body ++ ")")).toList =
      (bodies.filter (· ≠ "")).map String.toList := by
  induction bodies with
  | nil => exact groups_nil
  | cons body bodies ih =>
    obtain ⟨hbody, hbodies⟩ := List.forall_mem_cons.1 h
    have hfirst (rest : List Char) : groups ('(' :: (body.toList ++ ')' :: rest)) =
        ([body].filter (· ≠ "")).map String.toList ++ groups rest := by
      rw [groups_open hbody]
      by_cases hempty : body = ""
      · simp [hempty]
      · simp [hempty]
    cases bodies with
    | nil =>
      have htext : (sep.intercalate ([body].map fun body => "(" ++ body ++ ")")).toList =
          '(' :: (body.toList ++ ')' :: []) := by
        simp [String.toList_append]
      rw [htext, hfirst, groups_nil, List.append_nil]
    | cons next bodies =>
      have htext : (sep.intercalate
            ((body :: next :: bodies).map fun body => "(" ++ body ++ ")")).toList =
          '(' :: (body.toList ++ ')' :: (sep.toList ++ (sep.intercalate
            ((next :: bodies).map fun body => "(" ++ body ++ ")")).toList)) := by
        simp [String.toList_append, String.intercalate_cons_cons]
      rw [htext, hfirst, groups_append_of_not_mem hsep, ih hbodies, ← List.map_append,
        ← List.filter_append]
      rfl

/-! ### Values -/

/-- `InQuotes cs` says `cs` is a text between two equal quotes. -/
def InQuotes (cs : List Char) : Prop :=
  ∃ q inner, isQuote q ∧ cs = q :: (inner ++ [q])

/-- `IsValue raw value` says the value is written as `raw`. -/
inductive IsValue (raw : List Char) : String → Prop
  /-- The value stands between quotes, with blanks around them. -/
  | quoted {q : Char} {inner : List Char} (hquote : isQuote q)
      (htrim : trimChars raw = q :: (inner ++ [q])) : IsValue raw (String.ofList inner)
  /-- The value stands between blanks, without quotes. -/
  | plain (hquotes : ¬ InQuotes (trimChars raw)) : IsValue raw (String.ofList (trimChars raw))

/-- `IsTuple content values` says the values of a group are those between the commas of its
content. -/
inductive IsTuple : List Char → List String → Prop
  /-- The content consists of the pieces that the values are written as, and commas between them. -/
  | intro {pieces : List (List Char)} {values : List String} (hne : pieces ≠ [])
      (hcomma : ∀ piece ∈ pieces, ',' ∉ piece) (hvalues : List.Forall₂ IsValue pieces values) :
    IsTuple ([','].intercalate pieces) values

/-- A relation that is the graph of a function relates a list to its image. -/
theorem forall₂_iff_eq_map {α β : Type} {R : α → β → Prop} {f : α → β}
    (h : ∀ a b, R a b ↔ b = f a) {as : List α} {bs : List β} :
    List.Forall₂ R as bs ↔ bs = as.map f := by
  have hgraph : R = fun a b => f a = b := by
    funext a b
    exact propext ((h a b).trans eq_comm)
  rw [hgraph, ← List.forall₂_map_left_iff, List.forall₂_eq_eq_eq, eq_comm]

/-- Only quotes around a text are removed. -/
theorem unquote_of_not_inQuotes {cs : List Char} (h : ¬ InQuotes cs) : unquote cs = cs := by
  cases cs with
  | nil => rfl
  | cons q cs =>
    rw [unquote, if_neg]
    intro hquote
    rw [Bool.and_eq_true, beq_iff_eq] at hquote
    obtain ⟨inner, rfl⟩ := List.getLast?_eq_some_iff.1 hquote.2
    exact h ⟨q, inner, hquote.1, rfl⟩

theorem unquote_eq_self_iff {cs : List Char} : unquote cs = cs ↔ ¬ InQuotes cs := by
  refine ⟨?_, unquote_of_not_inQuotes⟩
  rintro hself ⟨q, inner, hquote, rfl⟩
  rw [unquote_quoted hquote] at hself
  have hlength := congrArg List.length hself
  rw [List.length_cons, List.length_append] at hlength
  omega

/-- The value that is read is the one that is written. -/
theorem isValue_iff {raw : List Char} {value : String} :
    IsValue raw value ↔ value = String.ofList (cleanValue raw) := by
  constructor
  · rintro (⟨hquote, htrim⟩ | hquotes)
    · rw [cleanValue, htrim, unquote_quoted hquote]
    · rw [cleanValue, unquote_of_not_inQuotes hquotes]
  · rintro rfl
    by_cases hquotes : InQuotes (trimChars raw)
    · obtain ⟨q, inner, hquote, htrim⟩ := hquotes
      rw [cleanValue, htrim, unquote_quoted hquote]
      exact .quoted hquote htrim
    · rw [cleanValue, unquote_of_not_inQuotes hquotes]
      exact .plain hquotes

/-- So are the values of a group. -/
theorem isTuple_iff {content : List Char} {values : List String} :
    IsTuple content values ↔ values = groupValues content := by
  constructor
  · rintro ⟨hne, hcomma, hvalues⟩
    rw [groupValues, List.splitOn_intercalate ',' hcomma hne]
    exact (forall₂_iff_eq_map (R := IsValue) fun _ _ => isValue_iff).1 hvalues
  · intro h
    have hvalues : List.Forall₂ IsValue (content.splitOn ',') values :=
      (forall₂_iff_eq_map (R := IsValue) fun _ _ => isValue_iff).2 h
    have htuple := IsTuple.intro (List.splitOn_ne_nil ',' content)
      (fun _ => not_mem_of_mem_splitOn) hvalues
    rwa [List.intercalate_splitOn] at htuple

/-- A group has one value more than its content has commas. -/
theorem length_groupValues (content : List Char) :
    (groupValues content).length = content.count ',' + 1 := by
  rw [groupValues, List.length_map, length_splitOn]

/-- The content of a group is not empty and holds no closing parenthesis. -/
theorem GroupsIn.of_mem {cs : List Char} {contents : List (List Char)} (h : GroupsIn cs contents) :
    ∀ content ∈ contents, content ≠ [] ∧ ')' ∉ content := by
  induction h with
  | nil => exact List.forall_mem_nil _
  | cons hgroup _ _ ih =>
    exact List.forall_mem_cons.2 ⟨⟨hgroup.content_ne_nil, hgroup.closing_not_mem⟩, ih⟩

/-- No value of a text holds a closing parenthesis. -/
theorem closing_not_mem_of_mem_tuplesOfChars {cs : List Char} {values : List String}
    (h : values ∈ tuplesOfChars cs) : ∀ value ∈ values, ')' ∉ value.toList := by
  obtain ⟨content, hcontent, rfl⟩ := List.mem_map.1 h
  intro value hvalue hclosing
  obtain ⟨raw, hraw, rfl⟩ := List.mem_map.1 hvalue
  rw [String.toList_ofList] at hclosing
  have hmem : ')' ∈ content := subset_of_mem_splitOn hraw ((cleanValue_sublist raw).subset hclosing)
  exact ((groupsIn_groups cs).of_mem content hcontent).2 hmem

/-! ### Tuples -/

/-- A text may be cut where no parenthesis is open, and text without an opening parenthesis may be
put in between. -/
theorem tuples_append_gap {front gap : String} (hfront : Closed front.toList)
    (hgap : '(' ∉ gap.toList) (back : String) :
    tuples (front ++ gap ++ back) = tuples (front ++ back) := by
  simp only [tuples, tuplesOfChars, String.toList_append, List.append_assoc]
  rw [groups_append hfront, groups_append hfront, groups_append_of_not_mem hgap]

/-- The tuples of a text are those of the grammar: the groups found from left to right, each with the
values between its commas.  A tuple has one value more than its group has commas, no value holds a
comma or a closing parenthesis, and text without an opening parenthesis, blanks for instance, makes
no difference where it is put between groups. -/
theorem tuples_grammar (text : String) :
    ∃ contents,
      (∀ contents', GroupsIn text.toList contents' ↔ contents' = contents) ∧
      (∀ tuples', List.Forall₂ IsTuple contents tuples' ↔ tuples' = tuples text) ∧
      (tuples text).map List.length = contents.map (fun content => content.count ',' + 1) ∧
      (∀ values ∈ tuples text, ∀ value ∈ values, ',' ∉ value.toList ∧ ')' ∉ value.toList) ∧
      ∀ front gap back, text = front ++ back → Closed front.toList → '(' ∉ gap.toList →
        tuples (front ++ gap ++ back) = tuples text := by
  refine ⟨groups text.toList, fun _ => groupsIn_iff, fun _ => ?_, ?_, ?_, ?_⟩
  · exact forall₂_iff_eq_map (R := IsTuple) fun _ _ => isTuple_iff
  · rw [tuples, tuplesOfChars, List.map_map]
    exact List.map_congr_left fun content _ => length_groupValues content
  · intro values hvalues value hvalue
    exact ⟨comma_not_mem_of_mem_tuplesOfChars hvalues value hvalue,
      closing_not_mem_of_mem_tuplesOfChars hvalues value hvalue⟩
  · rintro front gap back rfl hfront hgap
    exact tuples_append_gap hfront hgap back

/-- An empty group, a group with an opening parenthesis in it, a stray closing parenthesis and a
group that is never closed. -/
theorem tuples_grammar_strayParentheses :
    let front := "() ((2, ''x'')"
    let back := ") (Rex) (lost"
    Closed front.toList ∧ '(' ∉ " and\n".toList ∧
      tuples (front ++ " and\n" ++ back) = tuples (front ++ back) ∧
      tuples (front ++ back) = [["(2", "'x'"], ["Rex"]] := by
  intro front back
  have hfront : Closed front.toList := by
    have hlast : front.toList = "() ((2, ''x''".toList ++ [')'] := by decide
    rw [hlast]
    exact closed_append_closing _
  have hgap : '(' ∉ " and\n".toList := by decide
  obtain ⟨contents, -, -, -, -, hbetween⟩ := tuples_grammar (front ++ back)
  exact ⟨hfront, hgap, hbetween front " and\n" back rfl hfront hgap, by decide +kernel⟩

end DogRegistry
