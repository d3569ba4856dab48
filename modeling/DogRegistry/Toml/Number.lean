import DogRegistry.Json.StringMap

/-!
# Numbers of settings texts

Integers are written in four bases; other numbers have a fraction, an exponent or both.  Single
underscores may stand between digits.

## Main definitions

* `integer?` — the value of an integer.
* `Fractional` — a number with a fraction or an exponent, and `Fractional.parse?` its reader.
* `Fractional.isTooLarge` — whether such a number rounds to infinity.
-/

namespace DogRegistry.Toml

/-! ### Integers -/

/-- The digits of a number in the given base, without the single underscores between them. -/
def digits? (isDigit : Char → Bool) (cs : List Char) : Option (List Char) :=
  let groups := cs.splitOn '_'
  if groups.all fun g => !g.isEmpty && g.all isDigit then some groups.flatten else none

/-- The value of digits in a base up to sixteen. -/
def numberIn? (base : Nat) (cs : List Char) : Option Nat := do
  let digits ← digits? (fun c => (Json.hexValue? c).any (· < base)) cs
  digits.foldlM (fun n c => (Json.hexValue? c).map (n * base + ·)) 0

/-- The digits of a decimal number without sign, which has no leading zero. -/
def decimalDigits? (cs : List Char) : Option (List Char) :=
  if cs.length > 1 ∧ cs.head? = some '0' then none else digits? Char.isDigit cs

/-- The value of a decimal number without sign. -/
def decimal? (cs : List Char) : Option Nat := do
  numberIn? 10 (← decimalDigits? cs)

/-- The value of an integer of any size.  Only decimal numbers have a sign. -/
def anyInteger? : List Char → Option Int
  | '+' :: cs => (decimal? cs).map Int.ofNat
  | '-' :: cs => (decimal? cs).map fun n => -Int.ofNat n
  | '0' :: 'x' :: cs => (numberIn? 16 cs).map Int.ofNat
  | '0' :: 'o' :: cs => (numberIn? 8 cs).map Int.ofNat
  | '0' :: 'b' :: cs => (numberIn? 2 cs).map Int.ofNat
  | cs => (decimal? cs).map Int.ofNat

/-- The least natural number that is no integer of 64 bits with a sign. -/
def integerBound : Nat := 9223372036854775808

/-- The value of an integer of 64 bits. -/
def integer? (cs : List Char) : Option Int := do
  let n ← anyInteger? cs
  if -integerBound ≤ n ∧ n < integerBound then return n else none

/-! ### Fractions -/

/-- A number with a fraction or an exponent: the digits without the point, as a number, times ten to
the power of the exponent. -/
structure Fractional where
  /-- Whether there is a minus sign. -/
  negative : Bool
  /-- The digits without the point. -/
  digits : List Char
  /-- The power of ten. -/
  exponent : Int
  deriving DecidableEq, Repr

namespace Fractional

/-- The sign at the front of a text, and the text behind it. -/
def splitSign : List Char → Bool × List Char
  | '+' :: cs => (false, cs)
  | '-' :: cs => (true, cs)
  | cs => (false, cs)

/-- The value of an exponent with its letter, and `0` if there is none. -/
def exponent? : List Char → Option Int
  | [] => some 0
  | _ :: cs => do
    let (negative, cs) := splitSign cs
    let n ← numberIn? 10 cs
    return if negative then -Int.ofNat n else Int.ofNat n

/-- The digits of a fraction with its point, and none if there is no fraction. -/
def fraction? : List Char → Option (List Char)
  | [] => some []
  | _ :: cs => digits? Char.isDigit cs

/-- Reads a number that has a fraction or an exponent. -/
def parse? (cs : List Char) : Option Fractional := do
  let isExponent c := c == 'e' || c == 'E'
  let (negative, cs) := splitSign cs
  let mantissa := cs.takeWhile fun c => !isExponent c
  let power := cs.dropWhile fun c => !isExponent c
  let point := mantissa.dropWhile (· != '.')
  if point.isEmpty && power.isEmpty then none
  let whole ← decimalDigits? (mantissa.takeWhile (· != '.'))
  let fraction ← fraction? point
  let exponent ← exponent? power
  return ⟨negative, whole ++ fraction, exponent - fraction.length⟩

/-- The digits without leading zeros. -/
def significant (x : Fractional) : List Char :=
  x.digits.dropWhile (· == '0')

/-- The least number that rounds to infinity as a number of 64 bits: the middle between the greatest
finite one and the power of two behind it. -/
def infinityBound : Nat :=
  Nat.pow 2 1024 - Nat.pow 2 970

/-- `x.isTooLarge` says `x` is positive and rounds to infinity.  Numbers whose size shows that they
do or do not are told apart without computing them. -/
def isTooLarge (x : Fractional) : Bool :=
  let size := Int.ofNat x.significant.length + x.exponent
  if x.negative || x.significant.isEmpty || size < 300 then false
  else if 320 < size then true
  else
    let n := Nat.ofDigitChars 10 x.significant 0
    if 0 ≤ x.exponent then infinityBound ≤ n * Nat.pow 10 x.exponent.toNat
    else infinityBound * Nat.pow 10 (-x.exponent).toNat ≤ n

end Fractional

/-- `isSpecial cs` says `cs` stands for infinity or for no number, with a sign or not. -/
def isSpecial (cs : List Char) : Bool :=
  let body := (Fractional.splitSign cs).2
  body == "inf".toList || body == "nan".toList

end DogRegistry.Toml
