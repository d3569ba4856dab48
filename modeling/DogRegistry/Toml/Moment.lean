import DogRegistry.Toml.Reader

/-!
# Dates and times

A date, a time of day, or both, with or without the distance from universal time.

## Main definitions

* `daysIn` — the days of a month.
* `date`, `timeOfDay`, `offset` — readers of the parts.
* `moment` — the reader of a date, a time or both.
-/

namespace DogRegistry.Toml

open Reader

/-- Reads a number of exactly `n` decimal digits. -/
def fixedNumber (n : Nat) : Reader Nat := do
  let digits ← times (one Char.isDigit) n
  return Nat.ofDigitChars 10 digits 0

/-- Reads a number of two digits between two bounds. -/
def twoDigits (least greatest : Nat) : Reader Nat := do
  let n ← fixedNumber 2
  if least ≤ n ∧ n ≤ greatest then return n else failure

/-- `isLeapYear year` says February has a day more. -/
def isLeapYear (year : Nat) : Bool :=
  year % 4 == 0 && (year % 100 != 0 || year % 400 == 0)

/-- How many days a month has. -/
def daysIn (year month : Nat) : Nat :=
  if month = 2 then if isLeapYear year then 29 else 28
  else if [4, 6, 9, 11].contains month then 30
  else 31

/-- Reads a date that exists. -/
def date : Reader Unit := do
  let year ← fixedNumber 4
  char '-'
  let month ← twoDigits 1 12
  char '-'
  let _ ← twoDigits 1 (daysIn year month)

/-- Reads a time of day, which may be a leap second and may have a fraction. -/
def timeOfDay : Reader Unit := do
  let _ ← twoDigits 0 23
  char ':'
  let _ ← twoDigits 0 59
  char ':'
  let _ ← twoDigits 0 60
  let _ ← optional do
    char '.'
    let _ ← takeSome Char.isDigit

/-- Reads the distance from universal time. -/
def offset : Reader Unit :=
  (do let _ ← one fun c => c == 'Z' || c == 'z')
    <|> do
      let _ ← one fun c => c == '+' || c == '-'
      let _ ← twoDigits 0 23
      char ':'
      let _ ← twoDigits 0 59

/-- Reads a date, a time of day, or both with a blank or the letter `T` between. -/
def moment : Reader Unit :=
  (do
    date
    let _ ← optional do
      let _ ← one fun c => c == 'T' || c == 't' || c == ' '
      timeOfDay
      let _ ← optional offset)
    <|> timeOfDay

end DogRegistry.Toml
