import DogRegistry.Text.Blank
import DogRegistry.Text.EmojiTable
import DogRegistry.Text.WidthTable

/-!
# Display width

How many columns a text takes on a fixed-pitch display.  Most characters take the columns they take
alone, but some take fewer or more in front of others: letters of several scripts join with what
follows, and emoji combine into sequences that are drawn as one.  So a text is measured from its
end, and every character is measured in front of what was read already.

## Main definitions

* `charColumns c` — the columns of a character by itself.
* `Follower`, `Follower.join?` — what matters of the text behind a character, and how a character
  joins with it.
* `Context.before` — the columns that a character adds to the text behind it.
* `displayWidth s` — the columns of a text.
-/

namespace DogRegistry.Text

/-! ### Single characters -/

/-- `isOneOf table c` says `c` lies in one of the closed ranges of `table`. -/
def isOneOf (table : List (Nat × Nat)) (c : Char) : Bool :=
  inRanges table c.toNat

/-- The columns of a character by itself.  The first characters, controls included, take one column
each; three Khmer signs and a Hangul filler have columns of their own. -/
def charColumns (c : Char) : Nat :=
  if c ≤ '\xa0' then 1
  else if c = '\u17d8' then 3
  else if c = '\u17a4' ∨ c = '\u115f' then 2
  else if isOneOf zeroWidthRanges c then 0
  else if isOneOf wideRanges c then 2
  else 1

/-- The joiner that takes no column. -/
def zeroWidthJoiner : Char := '\u200d'

/-- The selector of the text form of the character before it. -/
def textSelector : Char := '\ufe0e'

/-- The selector of the emoji form of the character before it. -/
def emojiSelector : Char := '\ufe0f'

/-- The selector of the wide form of a quotation mark before it. -/
def wideSelector : Char := '\ufe01'

/-- `isRegionalIndicator c` says two characters such as `c` are drawn as a flag. -/
def isRegionalIndicator (c : Char) : Bool :=
  isOneOf [(0x1F1E6, 0x1F1FF)] c

/-- `isSkinTone c` says `c` gives the person before it a skin tone. -/
def isSkinTone (c : Char) : Bool :=
  isOneOf [(0x1F3FB, 0x1F3FF)] c

/-- `isPlainEmoji c` says `c` is drawn as an emoji by itself. -/
def isPlainEmoji (c : Char) : Bool :=
  isOneOf emojiPresentationRanges c && !isRegionalIndicator c && !isSkinTone c

/-- `startsEmojiForm c` says `c` becomes an emoji in front of the emoji selector. -/
def startsEmojiForm (c : Char) : Bool :=
  isOneOf emojiVariationRanges c

/-- `startsNarrowForm c` says `c` takes one column in front of the text selector, and two by
itself. -/
def startsNarrowForm (c : Char) : Bool :=
  isOneOf emojiVariationRanges c && isOneOf emojiPresentationRanges c
    && !isOneOf [(0x1F200, 0x1F2FF)] c

/-- `startsWideForm c` says `c` is a quotation mark that takes two columns in front of the wide
selector. -/
def startsWideForm (c : Char) : Bool :=
  isOneOf [(0x2018, 0x2019), (0x201C, 0x201D)] c

/-- `isLigatureTransparent c` says two letters join across `c`. -/
def isLigatureTransparent (c : Char) : Bool :=
  isOneOf [(0x034F, 0x034F), (0x17B4, 0x17B5), (0x180B, 0x180D), (0x180F, 0x180F),
    (0x200D, 0x200D), (0xFE00, 0xFE0F), (0xE0100, 0xE01EF)] c

/-- `isAlef c` says `c` is an Arabic letter alef. -/
def isAlef (c : Char) : Bool :=
  isOneOf [(0x0622, 0x0623), (0x0625, 0x0625), (0x0627, 0x0627), (0x0671, 0x0673),
    (0x0675, 0x0675), (0x0773, 0x0774), (0x0870, 0x0882)] c

/-- `isLam c` says `c` is an Arabic letter lam. -/
def isLam (c : Char) : Bool :=
  isOneOf [(0x0644, 0x0644), (0x06B5, 0x06B8), (0x076A, 0x076A), (0x08A6, 0x08A6),
    (0x08C7, 0x08C7)] c

/-- `isTifinaghConsonant c` says `c` is a Tifinagh consonant. -/
def isTifinaghConsonant (c : Char) : Bool :=
  isOneOf [(0x2D31, 0x2D65), (0x2D6F, 0x2D6F)] c

/-- `isKhmerLetter c` says `c` is a Khmer letter that has a subscript form. -/
def isKhmerLetter (c : Char) : Bool :=
  isOneOf [(0x1780, 0x1782), (0x1784, 0x1787), (0x1789, 0x178C), (0x178E, 0x1793),
    (0x1795, 0x1798), (0x179B, 0x179D), (0x17A0, 0x17A0), (0x17A2, 0x17A2), (0x17A7, 0x17A7),
    (0x17AB, 0x17AC), (0x17AF, 0x17AF)] c

/-! ### What follows -/

/-- A letter that the one before it may join with. -/
inductive Ligature
  /-- The Hebrew letter lamed. -/
  | hebrewLamed
  /-- The Buginese letter ya. -/
  | bugineseYa
  /-- The Buginese vowel sign i that a joiner connects to the letter ya. -/
  | bugineseIYa
  /-- A Tifinagh consonant. -/
  | tifinagh
  /-- A Tifinagh consonant behind the consonant joiner. -/
  | tifinaghJoined
  /-- One of two Lisu tone marks. -/
  | lisuTone
  /-- The Old Turkic letter that forms a ligature. -/
  | oldTurkic
  /-- A Khmer letter that has a subscript form. -/
  | khmer
  deriving DecidableEq, Repr

/-- What is remembered of the text behind a character. -/
inductive Follower
  /-- Nothing that matters. -/
  | plain
  /-- A letter, and whether a joiner stands in front of it. -/
  | ligature (letter : Ligature) (joined : Bool)
  /-- An Arabic letter alef. -/
  | alef
  /-- The Kirat Rai vowel sign e. -/
  | kiratRaiE
  /-- The Kirat Rai vowel sign ai. -/
  | kiratRaiAi
  /-- A skin tone. -/
  | skinTone
  /-- One regional indicator. -/
  | regional
  /-- Two regional indicators or more. -/
  | regionals
  /-- An emoji. -/
  | emoji
  /-- An emoji behind a joiner. -/
  | joinedEmoji
  /-- A keycap in front of a joined emoji. -/
  | joinedKeycap
  /-- One regional indicator in front of a joined emoji. -/
  | joinedRegional
  /-- An even number of regional indicators in front of a joined emoji. -/
  | joinedEven
  /-- Three regional indicators or a greater odd number in front of a joined emoji. -/
  | joinedOdd
  /-- The end of a tag sequence in front of a joined emoji, with so many tag letters before it. -/
  | tagLetters (count : Nat)
  /-- The same with so many tag digits before the letters. -/
  | tagDigits (count : Nat)
  deriving DecidableEq, Repr

/-- What a character by itself is to the one before it. -/
def followerOf (c : Char) : Follower :=
  if c ≤ '\xa0' then .plain
  else if isAlef c then .alef
  else if c = '\u05dc' then .ligature .hebrewLamed false
  else if c = '\u1a10' then .ligature .bugineseYa false
  else if isTifinaghConsonant c then .ligature .tifinagh false
  else if isOneOf [(0xA4FC, 0xA4FD)] c then .ligature .lisuTone false
  else if isOneOf [(0x10C03, 0x10C03)] c then .ligature .oldTurkic false
  else if isKhmerLetter c then .ligature .khmer false
  else if isOneOf [(0x16D67, 0x16D67)] c then .kiratRaiE
  else if isOneOf [(0x16D68, 0x16D68)] c then .kiratRaiAi
  else if isRegionalIndicator c then .regional
  else if isSkinTone c then .skinTone
  else if isPlainEmoji c then .emoji
  else .plain

/-! ### Joining -/

/-- What a character adds to a letter that it joins with, and what it is together with it. -/
def Ligature.join? (letter : Ligature) (joined : Bool) (c : Char) : Option (Int × Follower) :=
  match letter, joined with
  | .hebrewLamed, true => if c = '\u05d0' then some (0, .plain) else none
  | .bugineseYa, true => if c = '\u1a17' then some (0, .ligature .bugineseIYa true) else none
  | .bugineseIYa, _ => if c = '\u1a15' then some (0, .plain) else none
  | .tifinagh, joined =>
    if c = '\u2d7f' then some (1, .ligature .tifinaghJoined false)
    else if joined && isTifinaghConsonant c then some (0, .plain)
    else none
  | .tifinaghJoined, _ => if isTifinaghConsonant c then some (-1, .plain) else none
  | .lisuTone, _ => if isOneOf [(0xA4F8, 0xA4FB)] c then some (0, .plain) else none
  | .oldTurkic, true => if isOneOf [(0x10C32, 0x10C32)] c then some (0, .plain) else none
  | .khmer, _ => if c = '\u17d2' then some (-1, .plain) else none
  | _, _ => none

/-- What a tag letter, a tag digit or the flag that a tag sequence begins with adds. -/
def tagJoin? (letters digits : Nat) (c : Char) : Option (Int × Follower) :=
  if isOneOf [(0xE0061, 0xE007A)] c ∧ digits = 0 ∧ letters < 6 then
    some (0, .tagLetters (letters + 1))
  else if isOneOf [(0xE0030, 0xE0039)] c ∧ letters < 5 ∧ digits < 3 then
    some (0, .tagDigits (digits + 1))
  else if isOneOf [(0x1F3F4, 0x1F3F4)] c ∧ (digits = 3 ∨ digits = 0 ∧ 3 ≤ letters) then
    some (0, .emoji)
  else
    none

/-- What a character adds to a joined emoji. -/
def joinedEmojiJoin? (c : Char) : Option (Int × Follower) :=
  if c = '\u20e3' then some (0, .joinedKeycap)
  else if isRegionalIndicator c then some (1, .joinedRegional)
  else if isSkinTone c then some (0, .skinTone)
  else if isOneOf [(0xE007F, 0xE007F)] c then some (0, .tagLetters 0)
  else if isPlainEmoji c then some (0, .emoji)
  else none

/-- What a character adds to an emoji: a joiner makes it a part of a sequence. -/
def emojiJoin? (c : Char) : Option (Int × Follower) :=
  if c = zeroWidthJoiner then some (0, .joinedEmoji) else none

/-- What a Kirat Rai vowel sign adds to another one. -/
def kiratRaiJoin? (ai : Bool) (c : Char) : Option (Int × Follower) :=
  match c.toNat with
  | 0x16D63 => some (0, .plain)
  | 0x16D67 => if ai then none else some (0, .kiratRaiAi)
  | 0x16D68 => if ai then none else some (1, .kiratRaiE)
  | 0x16D69 => if ai then none else some (0, .plain)
  | _ => none

/-- What a regional indicator adds to an odd or even number of them in front of a joined emoji. -/
def joinedRegionalJoin? (even : Bool) (c : Char) : Option (Int × Follower) :=
  if isRegionalIndicator c then some (if even then (3, .joinedOdd) else (-1, .joinedEven)) else none

/-- How many columns a character adds to the text behind it, where that is not what it takes by
itself, and what it is together with that text. -/
def Follower.join? (f : Follower) (c : Char) : Option (Int × Follower) :=
  match f with
  | .plain => none
  | .ligature letter joined =>
    if c = zeroWidthJoiner then some (0, .ligature letter true)
    else if isLigatureTransparent c then some (0, f)
    else letter.join? joined c
  | .alef =>
    if isLam c then some (0, .plain)
    else if isOneOf transparentRanges c then some (0, .alef)
    else none
  | .kiratRaiE => kiratRaiJoin? false c
  | .kiratRaiAi => kiratRaiJoin? true c
  | .skinTone => if isOneOf emojiModifierBaseRanges c then some (0, .emoji) else emojiJoin? c
  | .regional => if isRegionalIndicator c then some (1, .regionals) else none
  | .regionals => if isRegionalIndicator c then some (1, .regionals) else emojiJoin? c
  | .emoji => emojiJoin? c
  | .joinedEmoji => joinedEmojiJoin? c
  | .joinedKeycap => none
  | .joinedRegional => joinedRegionalJoin? false c
  | .joinedEven => (joinedRegionalJoin? true c).or (emojiJoin? c)
  | .joinedOdd => (joinedRegionalJoin? false c).or (emojiJoin? c)
  | .tagLetters count => tagJoin? count 0 c
  | .tagDigits count => tagJoin? 0 count c

/-! ### Texts -/

/-- What is remembered of the text behind a character, with the selectors that stand between. -/
structure Context where
  /-- What stands behind the selectors. -/
  follower : Follower := .plain
  /-- Whether the text selector stands between. -/
  textForm : Bool := false
  /-- Whether the emoji selector stands between. -/
  emojiForm : Bool := false
  /-- Whether the selector of wide quotation marks stands between. -/
  wideForm : Bool := false
  deriving DecidableEq, Repr

/-- `f.isLetter` says `f` is a letter that others join with across selectors. -/
def Follower.isLetter : Follower → Bool
  | .ligature _ _ | .alef => true
  | _ => false

/-- `f.continuesEmoji` says a selected emoji in front of `f` becomes a part of a sequence. -/
def Follower.continuesEmoji : Follower → Bool
  | .joinedEmoji | .joinedKeycap => true
  | _ => false

namespace Context

/-- The context with the emoji selector in front. -/
def selectEmoji (x : Context) : Context :=
  if x.follower.isLetter then { x with emojiForm := true }
  else if x.follower.continuesEmoji then { follower := x.follower, emojiForm := true }
  else { emojiForm := true }

/-- The context with the text selector in front. -/
def selectText (x : Context) : Context :=
  if x.follower.isLetter then { x with textForm := true } else { textForm := true }

/-- The context with the selector of wide quotation marks in front. -/
def selectWide (x : Context) : Context :=
  if x.follower.isLetter then { x with wideForm := true } else { wideForm := true }

/-- The context in front of a character that the emoji selector does not turn into an emoji. -/
def dropEmojiForm (x : Context) : Context :=
  if !x.emojiForm then x
  else if x.follower.isLetter then { x with emojiForm := false }
  else {}

/-- What follows a character on which the selectors have no effect. -/
def unselected (x : Context) : Follower :=
  if !(x.textForm || x.wideForm) || x.follower.isLetter then x.follower else .plain

/-- The columns that a character adds, and the context it makes, where the emoji selector has no
effect on it. -/
def beforeUnselected (x : Context) (c : Char) : Int × Context :=
  if c ≤ '\xa0' then (1, {})
  else if c = emojiSelector then (0, x.selectEmoji)
  else if c = textSelector then (0, x.selectText)
  else if c = wideSelector then (0, x.selectWide)
  else if x.textForm && startsNarrowForm c then (1, {})
  else if x.wideForm && startsWideForm c then (2, {})
  else
    match x.unselected.join? c with
    | some (columns, f) => (columns, { follower := f })
    | none => (charColumns c, { follower := followerOf c })

/-- The columns that a character adds to the text behind it, and the context that it makes together
with that text. -/
def before (x : Context) (c : Char) : Int × Context :=
  if x.emojiForm && startsEmojiForm c then
    (if x.follower.continuesEmoji then 0 else 2, { follower := .emoji })
  else x.dropEmojiForm.beforeUnselected c

end Context

/-- The columns some characters take side by side, and the context they make. -/
def measure : List Char → Int × Context
  | [] => (0, {})
  | c :: cs =>
    let (columns, x) := measure cs
    let (more, x) := x.before c
    (columns + more, x)

/-- The columns a text takes. -/
def displayWidth (s : String) : Nat :=
  (measure s.toList).1.toNat

@[simp] theorem displayWidth_empty : displayWidth "" = 0 := rfl

end DogRegistry.Text
