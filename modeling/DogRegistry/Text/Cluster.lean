import DogRegistry.Text.Blank
import DogRegistry.Text.ClusterTable
import DogRegistry.Text.EmojiTable

/-!
# Clusters

The pieces of a text that a reader takes for one character: a letter with its marks, a Hangul
syllable, an emoji sequence, a flag.  These are the extended grapheme clusters of Unicode.  Whether
a cluster goes on behind a character depends on the two characters at that place and on a little of
what the cluster holds already.

## Main definitions

* `ClusterClass`, `clusterClass c` — the classes of characters that the rules tell apart.
* `Cluster.goesOn` — the rules.
* `clusters cs` — a text cut into its clusters.

## Main results

* `flatten_clusters` — the clusters together are the text.
-/

namespace DogRegistry.Text

/-- What a character may be inside a cluster. -/
inductive ClusterClass
  /-- A carriage return. -/
  | carriageReturn
  /-- A line feed. -/
  | lineFeed
  /-- Another control character or separator. -/
  | control
  /-- A mark that extends what is before it. -/
  | extend
  /-- The joiner of emoji sequences. -/
  | joiner
  /-- A regional indicator. -/
  | regional
  /-- A sign that belongs to the character behind it. -/
  | prepend
  /-- A mark that takes space. -/
  | spacing
  /-- A leading consonant of Hangul. -/
  | leading
  /-- A vowel of Hangul. -/
  | vowel
  /-- A final consonant of Hangul. -/
  | trailing
  /-- A Hangul syllable without a final consonant. -/
  | openSyllable
  /-- A Hangul syllable with a final consonant. -/
  | closedSyllable
  /-- A character that emoji sequences are built from. -/
  | pictograph
  /-- A consonant that forms conjuncts. -/
  | consonant
  /-- Any other character. -/
  | other
  deriving DecidableEq, Repr

/-- The class of a character that is no Hangul. -/
def commonClass (n : Nat) : ClusterClass :=
  if inRanges controlRanges n then .control
  else if inRanges extendRanges n then .extend
  else if inRanges [(0x200D, 0x200D)] n then .joiner
  else if inRanges [(0x1F1E6, 0x1F1FF)] n then .regional
  else if inRanges prependRanges n then .prepend
  else if inRanges spacingMarkRanges n then .spacing
  else if inRanges pictographicRanges n then .pictograph
  else if inRanges conjunctConsonantRanges n then .consonant
  else .other

/-- The class of a character. -/
def clusterClass (c : Char) : ClusterClass :=
  let n := c.toNat
  if c = '\r' then .carriageReturn
  else if c = '\n' then .lineFeed
  else if inRanges [(0x1100, 0x115F), (0xA960, 0xA97C)] n then .leading
  else if inRanges [(0x1160, 0x11A7), (0xD7B0, 0xD7C6), (0x16D63, 0x16D63), (0x16D67, 0x16D6A)] n
    then .vowel
  else if inRanges [(0x11A8, 0x11FF), (0xD7CB, 0xD7FB)] n then .trailing
  else if inRanges [(0xAC00, 0xD7A3)] n then
    if (n - 0xAC00) % 28 = 0 then .openSyllable else .closedSyllable
  else commonClass n

/-- `isConjunctLinker c` says `c` joins two consonants to a conjunct. -/
def isConjunctLinker (c : Char) : Bool :=
  inRanges conjunctLinkerRanges c.toNat

/-- `isConjunctExtend c` says `c` may stand inside a conjunct without linking its consonants. -/
def isConjunctExtend (c : Char) : Bool :=
  (clusterClass c = .extend || clusterClass c = .joiner) && !isConjunctLinker c && c != '\u200c'

/-- What the end of a cluster is a part of. -/
inductive Sequence
  /-- Nothing that matters. -/
  | none
  /-- A character of an emoji sequence with its marks. -/
  | pictograph
  /-- The same with a joiner behind it. -/
  | joinedPictograph
  /-- A consonant with marks none of which is a linker. -/
  | consonant
  /-- A consonant with marks and a linker. -/
  | linkedConsonant
  /-- A single regional indicator. -/
  | regional
  deriving DecidableEq, Repr

/-- What matters of a cluster for the question whether it goes on. -/
structure Cluster where
  /-- The class of its last character. -/
  last : ClusterClass
  /-- What its end is a part of. -/
  sequence : Sequence
  deriving DecidableEq, Repr

namespace Cluster

/-- The cluster that begins with a character. -/
def start (c : Char) : Cluster where
  last := clusterClass c
  sequence :=
    match clusterClass c with
    | .pictograph => .pictograph
    | .consonant => .consonant
    | .regional => .regional
    | _ => .none

/-- The sequence at the end of a cluster with one more character. -/
def nextSequence (s : Sequence) (c : Char) : Sequence :=
  match s, clusterClass c with
  | .pictograph, .extend => .pictograph
  | .pictograph, .joiner => .joinedPictograph
  | .consonant, _ =>
    if isConjunctLinker c then .linkedConsonant
    else if isConjunctExtend c then .consonant
    else (start c).sequence
  | .linkedConsonant, _ =>
    if isConjunctLinker c || isConjunctExtend c then .linkedConsonant else (start c).sequence
  | .regional, .regional => .none
  | _, _ => (start c).sequence

/-- The cluster with one more character. -/
def push (k : Cluster) (c : Char) : Cluster where
  last := clusterClass c
  sequence := nextSequence k.sequence c

/-- `isBoundary a` says a character of the class is a cluster of its own. -/
def isBoundary : ClusterClass → Bool
  | .carriageReturn | .lineFeed | .control => true
  | _ => false

/-- `syllableGoesOn a b` says a Hangul syllable goes on with the second class behind the first. -/
def syllableGoesOn : ClusterClass → ClusterClass → Bool
  | .leading, .leading | .leading, .vowel | .leading, .openSyllable | .leading, .closedSyllable
  | .openSyllable, .vowel | .openSyllable, .trailing | .vowel, .vowel | .vowel, .trailing
  | .closedSyllable, .trailing | .trailing, .trailing => true
  | _, _ => false

/-- `k.goesOn c` says the character behind the cluster belongs to it: a line feed behind a carriage
return, the next part of a Hangul syllable, a mark, a character behind a sign that belongs to it, a
consonant behind a linker, a pictograph behind a joiner, or the second of two regional
indicators. -/
def goesOn (k : Cluster) (c : Char) : Bool :=
  let next := clusterClass c
  if k.last = .carriageReturn then next = .lineFeed
  else if isBoundary k.last || isBoundary next then false
  else
    syllableGoesOn k.last next || next = .extend || next = .joiner || next = .spacing
      || k.last = .prepend
      || (k.sequence = .linkedConsonant && next = .consonant)
      || (k.sequence = .joinedPictograph && next = .pictograph)
      || (k.sequence = .regional && next = .regional)

end Cluster

/-- The clusters of a text whose first characters, a part of one cluster, are read already. -/
def clustersFrom (k : Cluster) (front : List Char) : List Char → List (List Char)
  | [] => [front]
  | c :: cs =>
    if k.goesOn c then clustersFrom (k.push c) (front ++ [c]) cs
    else front :: clustersFrom (.start c) [c] cs

/-- The clusters of a text. -/
def clusters : List Char → List (List Char)
  | [] => []
  | c :: cs => clustersFrom (.start c) [c] cs

theorem flatten_clustersFrom (k : Cluster) (front cs : List Char) :
    (clustersFrom k front cs).flatten = front ++ cs := by
  induction cs generalizing k front with
  | nil => simp [clustersFrom]
  | cons c cs ih =>
    rw [clustersFrom]
    split
    · rw [ih, List.append_assoc, List.singleton_append]
    · rw [List.flatten_cons, ih, List.singleton_append]

theorem flatten_clusters (cs : List Char) : (clusters cs).flatten = cs := by
  cases cs with
  | nil => rfl
  | cons c cs => rw [clusters, flatten_clustersFrom, List.singleton_append]

end DogRegistry.Text
