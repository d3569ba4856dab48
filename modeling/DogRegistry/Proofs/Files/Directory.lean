import DogRegistry.Files.Directory
import DogRegistry.Proofs.Basic
import DogRegistry.Proofs.Files.Basic
import DogRegistry.Proofs.Text.Split
import Mathlib.Data.List.Induction

/-!
# Directories keep the laws of files

A write to a directory in memory changes what stands at one place.  The way to every other place
leads through directories, which a write leaves alone, so no other path shows anything new.

## Main definitions

* `Directory.Passable` — every place on the way to a place is a directory.
* `Directory.IsWritable` — a file can stand at a place.
* `Directory.written` — the directory with a file at a place.
* `Directory.SameFile` — two paths name the same file.

## Main results

* `Directory.step_eq_ok_iff` — where one piece of a path leads to.
* `Directory.writablePlace_eq_ok_iff` — which place a path names.
* `Directory.entry_written_of_ne` — a write changes what stands at one place only.
* `Directory.walk_written`, `Directory.walk_of_written` — the ways to other places stay the same.
* `Directory.readFile_writeFile` — a file that was written can be read.
* `Directory.sight_writeFile` — paths to other places show what they showed before.
-/

namespace DogRegistry

open Text

namespace Directory

variable {d : Directory} {path : String}

/-! ### Places on the way -/

theorem entry_ne_nothing_of_isOuter {place : List String} (h : isOuter place) :
    d.entry place ≠ .nothing := by
  rw [entry]
  split
  next => simp
  next => simp [h]

/-- Only a directory can be left, and it is left for a directory above it or for something that
stands in it. -/
theorem step_eq_ok_iff {place place' : List String} {piece : String} :
    d.step place piece = .ok place' ↔
      d.entry place = .folder ∧
        (isStay piece ∧ place' = place ∨
          isStay piece = false ∧ piece = ".." ∧ place' = above place ∨
          isStay piece = false ∧ piece ≠ ".." ∧ piece.utf8ByteSize ≤ nameLimit ∧
            d.entry (place ++ [piece]) ≠ .nothing ∧ place' = place ++ [piece]) := by
  have hdots : isStay ".." = false := by decide
  rw [step]
  split
  next h => simp [h]
  next h => simp [h]
  next h =>
    split_ifs with hstay hup hlong hnone
    · simp [h, hstay, @eq_comm _ place']
    · simp [h, hdots, hup, @eq_comm _ place']
    · simp [h, hstay, hup, Nat.not_le_of_lt hlong]
    · simp [h, hstay, hup, hnone]
    · simp [h, hstay, hup, hnone, Nat.le_of_not_lt hlong, @eq_comm _ place']

/-- Every place on the way to a place is a directory, the one where the way begins apart. -/
def Passable (d : Directory) (place : List String) : Prop :=
  ∀ before, before <+: place → before ≠ place → before ≠ [] → d.entry before = .folder

theorem passable_origin (d : Directory) (path : String) : d.Passable (origin path) := by
  intro before hprefix hne hnil
  rw [origin] at hprefix hne
  split_ifs at hprefix hne
  · -- nothing but the beginning itself stands in front of the root
    obtain ⟨after, hafter⟩ := hprefix
    match before, after, hafter with
    | [], _, _ => exact absurd rfl hnil
    | [name], [], hafter => exact absurd hafter (by simpa using hne)
  · exact absurd (List.prefix_nil.1 hprefix) hnil

/-- A directory is passable together with what stands in it. -/
theorem Passable.append_singleton {place : List String} (h : d.Passable place)
    (hfolder : d.entry place = .folder) (piece : String) : d.Passable (place ++ [piece]) := by
  intro before hprefix hne hnil
  rcases List.prefix_concat_iff.1 hprefix with heq | hprefix
  · exact absurd heq hne
  · by_cases heq : before = place
    · rw [heq, hfolder]
    · exact h before hprefix heq hnil

theorem Passable.above {place : List String} (h : d.Passable place)
    (hfolder : d.entry place = .folder) : d.Passable (above place) := by
  rw [Directory.above]
  split_ifs with hroot houter
  · exact h
  · exact h.append_singleton hfolder ".."
  · intro before hprefix hne hnil
    have hprefix' : before <+: place := hprefix.trans (List.dropLast_prefix place)
    refine h before hprefix' ?_ hnil
    rintro rfl
    have hlength := hprefix.length_le
    rw [List.length_dropLast] at hlength
    have hpos : 0 < before.length := List.length_pos_of_ne_nil hnil
    omega

/-- A step leads from passable places to passable places. -/
theorem Passable.step {place place' : List String} {piece : String} (h : d.Passable place)
    (hstep : d.step place piece = .ok place') : d.Passable place' := by
  obtain ⟨hfolder, ⟨-, rfl⟩ | ⟨-, -, rfl⟩ | ⟨-, -, -, -, rfl⟩⟩ := step_eq_ok_iff.1 hstep
  · exact h
  · exact h.above hfolder
  · exact h.append_singleton hfolder piece

/-- A way that can be gone is gone piece by piece. -/
theorem walk_cons_eq_ok_iff {place place' : List String} {piece : String} {pieces : List String} :
    d.walk place (piece :: pieces) = .ok place' ↔
      ∃ next, d.step place piece = .ok next ∧ d.walk next pieces = .ok place' := by
  rw [walk, List.foldlM_cons]
  exact bind_eq_ok_iff

theorem walk_append_singleton_eq_ok_iff {place place' : List String} {piece : String}
    {pieces : List String} :
    d.walk place (pieces ++ [piece]) = .ok place' ↔
      ∃ last, d.walk place pieces = .ok last ∧ d.step last piece = .ok place' := by
  rw [walk, List.foldlM_append, bind_eq_ok_iff]
  simp only [List.foldlM_cons, List.foldlM_nil, bind_pure]
  rfl

theorem Passable.walk {place place' : List String} {pieces : List String} (h : d.Passable place)
    (hwalk : d.walk place pieces = .ok place') : d.Passable place' := by
  induction pieces generalizing place with
  | nil =>
    obtain rfl : place = place' := Except.ok.inj hwalk
    exact h
  | cons piece pieces ih =>
    obtain ⟨next, hstep, hwalk⟩ := walk_cons_eq_ok_iff.1 hwalk
    exact ih (h.step hstep) hwalk

/-! ### Places that can be written to -/

/-- `d.IsWritable place` says a file can stand at `place`: the places on the way there are
directories, and there is none at `place` itself. -/
structure IsWritable (d : Directory) (place : List String) : Prop where
  /-- The place is below the one where the way begins. -/
  not_outer : isOuter place = false
  /-- No directory stands there. -/
  not_folder : d.entry place ≠ .folder
  /-- Something stands at every place on the way. -/
  before_ne_nothing : ∀ before, before <+: place → before ≠ place → d.entry before ≠ .nothing

/-- Every directory can be stayed in. -/
theorem step_dot_eq_ok_iff {place place' : List String} :
    d.step place "." = .ok place' ↔ d.entry place = .folder ∧ place' = place := by
  have hstay : isStay "." := by decide
  rw [step_eq_ok_iff]
  simp [hstay]

theorem isStay_eq_false_iff {piece : String} :
    isStay piece = false ↔ piece ≠ "" ∧ piece ≠ "." := by
  simp [isStay]

/-- A path names something in a directory if its last piece is a name and the others lead to the
directory. -/
theorem target_eq_entry_iff {within : List String} {name : String} :
    d.target path = .ok (.entry within name false) ↔
      malformed? path = none ∧ ∃ before, pathPieces path = before ++ [name] ∧
        d.walk (origin path) before = .ok within ∧ d.entry within = .folder ∧
        isStay name = false ∧ name ≠ ".." := by
  obtain ⟨before, last, hpieces⟩ : ∃ before last, pathPieces path = before ++ [last] :=
    (List.eq_nil_or_concat' _).resolve_left (splitAtChar_ne_nil '/' path)
  rw [target]
  cases hmalformed : malformed? path with
  | some e => simp
  | none =>
    simp only [hpieces, List.reverse_append, List.reverse_singleton, List.singleton_append,
      List.dropWhile_cons, List.getLast?_concat]
    by_cases hlast : last = ""
    · -- a slash at the end makes it the path of a directory
      refine iff_of_false ?_ ?_
      · intro h
        split at h
        next => exact absurd h (by simp)
        next =>
          obtain ⟨within', -, h⟩ := bind_eq_ok_iff.1 h
          obtain ⟨-, -, h⟩ := bind_eq_ok_iff.1 h
          split_ifs at h <;> simp_all [pure, Except.pure]
      · rintro ⟨-, before', hpieces', -, -, hname, -⟩
        obtain ⟨-, heq⟩ := List.append_inj' hpieces' rfl
        obtain rfl : last = name := List.singleton_inj.1 heq
        exact (isStay_eq_false_iff.1 hname).1 hlast
    · rw [if_neg (by simpa using hlast)]
      simp only [bind_eq_ok_iff, step_dot_eq_ok_iff, List.reverse_reverse, true_and]
      constructor
      · rintro ⟨within', hwalk, -, ⟨hfolder, -⟩, h⟩
        split_ifs at h with hdots
        · exact absurd h (by simp [pure, Except.pure])
        · obtain ⟨rfl, rfl, -⟩ := Target.entry.inj (Except.ok.inj h)
          rw [not_or] at hdots
          exact ⟨before, rfl, hwalk, hfolder, isStay_eq_false_iff.2 ⟨hlast, hdots.1⟩, hdots.2⟩
      · rintro ⟨before', hpieces', hwalk, hfolder, hname, hup⟩
        obtain ⟨rfl, heq⟩ := List.append_inj' hpieces' rfl
        obtain rfl : last = name := List.singleton_inj.1 heq
        have hdots : ¬ (last = "." ∨ last = "..") :=
          not_or.2 ⟨(isStay_eq_false_iff.1 hname).2, hup⟩
        have hslash : decide (some last = some "") = false := by simpa using hlast
        refine ⟨within, hwalk, within, ⟨hfolder, rfl⟩, ?_⟩
        rw [if_neg hdots, hslash]
        rfl

/-- A path names a place that can be written to if its last piece is a name and the others lead to a
directory in which no directory has that name. -/
theorem writablePlace_eq_ok_iff {place : List String} :
    d.writablePlace path = .ok place ↔
      ∃ within name, d.target path = .ok (.entry within name false) ∧
        name.utf8ByteSize ≤ nameLimit ∧ d.entry (within ++ [name]) ≠ .folder ∧
        place = within ++ [name] := by
  rw [writablePlace, bind_eq_ok_iff]
  constructor
  · rintro ⟨target, htarget, hplace⟩
    match target with
    | .folder => cases hplace
    | .entry within name true => cases hplace
    | .entry within name false =>
      dsimp only at hplace
      split_ifs at hplace with hlong hfolder
      exact ⟨within, name, htarget, Nat.le_of_not_lt hlong, hfolder, (Except.ok.inj hplace).symm⟩
  · rintro ⟨within, name, htarget, hlong, hfolder, rfl⟩
    refine ⟨_, htarget, ?_⟩
    simp only [if_neg (Nat.not_lt_of_le hlong), if_neg hfolder]
    rfl

theorem IsWritable.of_writablePlace {place : List String} (h : d.writablePlace path = .ok place) :
    d.IsWritable place := by
  obtain ⟨within, name, htarget, -, hnotFolder, rfl⟩ := writablePlace_eq_ok_iff.1 h
  obtain ⟨-, before, hpieces, hwalk, hfolder, hname, hup⟩ := target_eq_entry_iff.1 htarget
  refine ⟨?_, hnotFolder, ?_⟩
  · have hslash : '/' ∉ name.toList := by
      have hmem : name ∈ pathPieces path := by simp [hpieces]
      exact not_mem_of_mem_splitAtChar hmem
    have hroot : within ++ [name] ≠ ["/"] := by
      intro hroot
      obtain ⟨-, heq⟩ := List.append_inj' (hroot.trans (List.nil_append ["/"]).symm) rfl
      obtain rfl : name = "/" := List.singleton_inj.1 heq
      exact hslash (by decide)
    simp [isOuter, hroot, hup]
  · have hpassable : d.Passable (within ++ [name]) :=
      ((passable_origin d path).walk hwalk).append_singleton hfolder name
    intro place hprefix hne
    by_cases hnil : place = []
    · exact entry_ne_nothing_of_isOuter (by rw [hnil]; rfl)
    · rw [hpassable place hprefix hne hnil]
      exact Entry.noConfusion

/-! ### Writing -/

theorem lookup_setFile (place other : List String) (content : String)
    (files : List (List String × String)) :
    (setFile place content files).lookup other =
      if other = place then some content else files.lookup other := by
  induction files with
  | nil =>
    by_cases hother : other = place
    · simp [setFile, hother]
    · simp [setFile, List.lookup_cons, hother, beq_eq_false_iff_ne.2 hother]
  | cons f files ih =>
    by_cases hplace : f.1 = place
    · rw [setFile, if_pos hplace, List.lookup_cons, List.lookup_cons, hplace]
      by_cases hother : other = place
      · simp [hother]
      · simp [hother, beq_eq_false_iff_ne.2 hother]
    · rw [setFile, if_neg hplace, List.lookup_cons, List.lookup_cons, ih]
      by_cases hother : other = f.1
      · simp [hother, hplace]
      · simp [beq_eq_false_iff_ne.2 hother]

theorem any_setFile (place other : List String) (content : String)
    (files : List (List String × String)) :
    ((setFile place content files).any fun f => other.isPrefixOf f.1) =
      (other.isPrefixOf place || files.any fun f => other.isPrefixOf f.1) := by
  induction files with
  | nil => simp [setFile]
  | cons f files ih =>
    rw [setFile]
    by_cases hplace : f.1 = place
    · rw [if_pos hplace]
      simp [hplace]
    · rw [if_neg hplace, List.any_cons, ih, List.any_cons, Bool.or_left_comm]

/-- The directory with a file at a place. -/
def written (d : Directory) (place : List String) (content : String) : Directory :=
  { d with files := setFile place content d.files }

variable {place : List String} {content : String}

theorem entry_written_self : (d.written place content).entry place = .file content := by
  have hlookup : (d.written place content).files.lookup place = some content :=
    (lookup_setFile place place content d.files).trans (if_pos rfl)
  rw [entry, hlookup]

/-- A write changes what stands at one place only. -/
theorem entry_written_of_ne (h : d.IsWritable place) {other : List String} (hne : other ≠ place) :
    (d.written place content).entry other = d.entry other := by
  have hlookup : (d.written place content).files.lookup other = d.files.lookup other :=
    (lookup_setFile place other content d.files).trans (if_neg hne)
  have hany : ((d.written place content).files.any fun f => other.isPrefixOf f.1) =
      (other.isPrefixOf place || d.files.any fun f => other.isPrefixOf f.1) :=
    any_setFile place other content d.files
  by_cases hprefix : other <+: place
  · -- something stands there already, so it does not matter that the new file is below
    have hentry := h.before_ne_nothing other hprefix hne
    rw [entry] at hentry
    rw [entry, entry, hlookup, hany]
    cases hfile : d.files.lookup other with
    | some _ => rfl
    | none =>
      rw [hfile] at hentry
      have hfolder : isOuter other ∨ d.folders.contains other ∨
          d.files.any fun f => other.isPrefixOf f.1 := by
        by_contra hnot
        exact hentry (if_neg hnot)
      have hfolder' : isOuter other ∨ (d.written place content).folders.contains other ∨
          (other.isPrefixOf place || d.files.any fun f => other.isPrefixOf f.1) :=
        .inr (.inr (by rw [List.isPrefixOf_iff_prefix.2 hprefix, Bool.true_or]))
      exact (if_pos hfolder').trans (if_pos hfolder).symm
  · have hnot : other.isPrefixOf place = false :=
      Bool.eq_false_iff.2 fun hprefix' => hprefix (List.isPrefixOf_iff_prefix.1 hprefix')
    rw [entry, entry, hlookup, hany, hnot, Bool.false_or]
    rfl

/-- A way that could be gone before a write can be gone after it. -/
theorem step_written (h : d.IsWritable place) {start next : List String} {piece : String}
    (hstep : d.step start piece = .ok next) :
    (d.written place content).step start piece = .ok next := by
  obtain ⟨hfolder, hpiece⟩ := step_eq_ok_iff.1 hstep
  have hstart : (d.written place content).entry start = .folder := by
    rw [entry_written_of_ne h, hfolder]
    rintro rfl
    exact h.not_folder hfolder
  refine step_eq_ok_iff.2 ⟨hstart, hpiece.imp_right (Or.imp_right ?_)⟩
  rintro ⟨hstay, hup, hlong, hentry, rfl⟩
  refine ⟨hstay, hup, hlong, ?_, rfl⟩
  by_cases hplace : start ++ [piece] = place
  · rw [hplace, entry_written_self]
    exact Entry.noConfusion
  · rwa [entry_written_of_ne h hplace]

/-- Only the place that was written to can be reached in a new way. -/
theorem step_of_written (h : d.IsWritable place) {start next : List String} {piece : String}
    (hstep : (d.written place content).step start piece = .ok next) (hne : next ≠ place) :
    d.step start piece = .ok next := by
  obtain ⟨hfolder, hpiece⟩ := step_eq_ok_iff.1 hstep
  have hstart : d.entry start = .folder := by
    rw [← hfolder, entry_written_of_ne h]
    rintro rfl
    exact absurd (entry_written_self.symm.trans hfolder) (by simp)
  refine step_eq_ok_iff.2 ⟨hstart, hpiece.imp_right (Or.imp_right ?_)⟩
  rintro ⟨hstay, hup, hlong, hentry, rfl⟩
  exact ⟨hstay, hup, hlong, by rwa [entry_written_of_ne h hne] at hentry, rfl⟩

theorem walk_written (h : d.IsWritable place) {start last : List String} {pieces : List String}
    (hwalk : d.walk start pieces = .ok last) :
    (d.written place content).walk start pieces = .ok last := by
  induction pieces generalizing start with
  | nil => exact hwalk
  | cons piece pieces ih =>
    obtain ⟨next, hstep, hwalk⟩ := walk_cons_eq_ok_iff.1 hwalk
    exact walk_cons_eq_ok_iff.2 ⟨next, step_written h hstep, ih hwalk⟩

theorem walk_of_written (h : d.IsWritable place) {start last : List String} {pieces : List String}
    (hwalk : (d.written place content).walk start pieces = .ok last) (hne : last ≠ place) :
    d.walk start pieces = .ok last := by
  induction pieces using List.reverseRecOn generalizing last with
  | nil => exact hwalk
  | append_singleton pieces piece ih =>
    obtain ⟨within, hwalk, hstep⟩ := walk_append_singleton_eq_ok_iff.1 hwalk
    -- no way leads on from a file
    have hwithin : within ≠ place := by
      rintro rfl
      exact absurd (entry_written_self.symm.trans (step_eq_ok_iff.1 hstep).1) (by simp)
    exact walk_append_singleton_eq_ok_iff.2
      ⟨within, ih hwalk hwithin, step_of_written h hstep hne⟩

/-! ### Reading what was written -/

theorem resolve_eq_ok_iff :
    d.resolve path = .ok place ↔
      malformed? path = none ∧ d.walk (origin path) (pathPieces path) = .ok place := by
  rw [resolve]
  cases malformed? path with
  | some e => simp
  | none => simp

/-- The path of a file that was written leads to it. -/
theorem resolve_written (h : d.writablePlace path = .ok place) :
    (d.written place content).resolve path = .ok place := by
  have hwritable := IsWritable.of_writablePlace h
  obtain ⟨within, name, htarget, hlong, -, rfl⟩ := writablePlace_eq_ok_iff.1 h
  obtain ⟨hmalformed, before, hpieces, hwalk, hfolder, hname, hup⟩ := target_eq_entry_iff.1 htarget
  have hwithin : within ≠ within ++ [name] := by simp
  refine resolve_eq_ok_iff.2 ⟨hmalformed, ?_⟩
  rw [hpieces]
  refine walk_append_singleton_eq_ok_iff.2 ⟨within, walk_written hwritable hwalk, ?_⟩
  refine step_eq_ok_iff.2 ⟨?_, .inr (.inr ⟨hname, hup, hlong, ?_, rfl⟩)⟩
  · rw [entry_written_of_ne hwritable hwithin, hfolder]
  · rw [entry_written_self]
    exact Entry.noConfusion

/-- The place above a directory is not the one of a file. -/
theorem above_ne_of_written (h : d.IsWritable place) {within before : List String}
    (hfolder : (d.written place content).entry within = .folder)
    (hwalk : (d.written place content).walk (origin path) before = .ok within) :
    above within ≠ place := by
  have hne : within ≠ place := by
    rintro rfl
    exact absurd (entry_written_self.symm.trans hfolder) (by simp)
  rw [above]
  split_ifs with hroot houter
  · exact hne
  · rintro rfl
    have hup : isOuter (within ++ [".."]) := by
      simp only [isOuter, hroot, decide_false, Bool.false_or] at houter
      simp [isOuter, List.all_append, houter]
    rw [h.not_outer] at hup
    exact absurd hup Bool.false_ne_true
  · intro hplace
    have hnil : place ≠ [] := by
      rintro rfl
      exact absurd h.not_outer (by decide)
    have hprefix : place <+: within := hplace ▸ List.dropLast_prefix within
    have hpassable := (passable_origin (d.written place content) path).walk hwalk
    have hplaceFolder := hpassable place hprefix hne.symm hnil
    exact absurd (entry_written_self.symm.trans hplaceFolder) (by simp)

/-- A path that leads to a file that was written names the place where it was written. -/
theorem writablePlace_of_resolve_written (h : d.IsWritable place)
    (hresolve : (d.written place content).resolve path = .ok place) :
    d.writablePlace path = .ok place := by
  obtain ⟨hmalformed, hwalk⟩ := resolve_eq_ok_iff.1 hresolve
  obtain ⟨before, name, hpieces⟩ : ∃ before name, pathPieces path = before ++ [name] :=
    (List.eq_nil_or_concat' _).resolve_left (splitAtChar_ne_nil '/' path)
  rw [hpieces] at hwalk
  obtain ⟨within, hbefore, hstep⟩ := walk_append_singleton_eq_ok_iff.1 hwalk
  obtain ⟨hfolder, hpiece⟩ := step_eq_ok_iff.1 hstep
  have hne : within ≠ place := by
    rintro rfl
    exact absurd (entry_written_self.symm.trans hfolder) (by simp)
  have hfolder' : d.entry within = .folder := by rw [← hfolder, entry_written_of_ne h hne]
  obtain ⟨-, hplace⟩ | ⟨-, -, hplace⟩ | ⟨hname, hup, hlong, -, hplace⟩ := hpiece
  · exact absurd hplace.symm hne
  · exact absurd hplace.symm (above_ne_of_written h hfolder hbefore)
  · have htarget : d.target path = .ok (.entry within name false) :=
      target_eq_entry_iff.2
        ⟨hmalformed, before, hpieces, walk_of_written h hbefore hne, hfolder', hname, hup⟩
    refine writablePlace_eq_ok_iff.2 ⟨within, name, htarget, hlong, ?_, hplace⟩
    rw [← hplace]
    exact h.not_folder

/-- The paths name the same file. -/
def SameFile (d : Directory) (path other : String) : Prop :=
  ∃ place, d.writablePlace path = .ok place ∧ d.writablePlace other = .ok place

/-- A file that was written is there and can be read. -/
theorem readFile_writeFile {d' : Directory} (h : d.writeFile path content = (.ok (), d')) :
    d'.pathExists path ∧ d'.readFile path = .ok content := by
  rw [writeFile] at h
  split at h
  next => exact absurd (congrArg Prod.fst h) (by simp)
  next place hplace =>
    obtain rfl : d.written place content = d' := congrArg Prod.snd h
    have hfind : (d.written place content).find path = .ok (.file content) := by
      rw [find, resolve_written hplace]
      exact congrArg Except.ok entry_written_self
    refine ⟨?_, ?_⟩
    · rw [pathExists, hfind]
      rfl
    · rw [readFile, hfind]
      rfl

theorem sight_of_resolve_error {e : OsError} (h : d.resolve path = .error e) :
    FileSystem.sight d path = (false, none) := by
  have hfind : d.find path = .error e := by rw [find, h]; rfl
  show (d.pathExists path, (d.readFile path).toOption) = _
  rw [pathExists, readFile, hfind]
  rfl

/-- Paths that lead to the same place show the same if the same stands there. -/
theorem sight_congr {d' : Directory} (hresolve : d.resolve path = .ok place)
    (hresolve' : d'.resolve path = .ok place) (hentry : d'.entry place = d.entry place) :
    FileSystem.sight d' path = FileSystem.sight d path := by
  have hfind : d'.find path = d.find path := by
    rw [find, find, hresolve, hresolve']
    exact congrArg Except.ok hentry
  show (d'.pathExists path, (d'.readFile path).toOption) = (d.pathExists path, _)
  rw [pathExists, readFile, hfind]
  rfl

/-- Writing to one file changes no other, also if it fails. -/
theorem sight_writeFile {other : String} (h : ¬ d.SameFile path other) :
    FileSystem.sight (d.writeFile path content).2 other = FileSystem.sight d other := by
  rw [writeFile]
  split
  next => rfl
  next place hplace =>
    show FileSystem.sight (d.written place content) other = _
    have hwritable := IsWritable.of_writablePlace hplace
    cases hresolve' : (d.written place content).resolve other with
    | ok last =>
      have hne : last ≠ place := by
        rintro rfl
        exact h ⟨last, hplace, writablePlace_of_resolve_written hwritable hresolve'⟩
      obtain ⟨hmalformed, hwalk⟩ := resolve_eq_ok_iff.1 hresolve'
      have hresolve : d.resolve other = .ok last :=
        resolve_eq_ok_iff.2 ⟨hmalformed, walk_of_written hwritable hwalk hne⟩
      exact sight_congr hresolve hresolve' (entry_written_of_ne hwritable hne)
    | error e' =>
      cases hresolve : d.resolve other with
      | error e => rw [sight_of_resolve_error hresolve, sight_of_resolve_error hresolve']
      | ok last =>
        obtain ⟨hmalformed, hwalk⟩ := resolve_eq_ok_iff.1 hresolve
        have hok : (d.written place content).resolve other = .ok last :=
          resolve_eq_ok_iff.2 ⟨hmalformed, walk_written hwritable hwalk⟩
        rw [hresolve'] at hok
        cases hok

instance : LawfulFileSystem Directory where
  SameFile := SameFile
  readFile_writeFile := readFile_writeFile
  sight_writeFile _ h := sight_writeFile h

end Directory

end DogRegistry
