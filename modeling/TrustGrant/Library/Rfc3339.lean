import TrustGrant.Library.Decimal

/-!
# Date-times of RFC 3339

A date, a letter, a time of day with any number of digits behind the second, and the offset
from UTC. A leap second is the second 60.
-/

namespace Library.Rfc3339

open Decimal

/-- Two digits whose value lies in the range. -/
def twoDigits (least greatest : Nat) (tens ones : Char) : Bool :=
  tens.isDigit && ones.isDigit && decide (least ≤ value [tens, ones]) &&
    decide (value [tens, ones] ≤ greatest)

/-- The days of a month, with the leap days of the Gregorian calendar. -/
def daysInMonth (year month : Nat) : Nat :=
  if month = 2 then
    if year % 4 = 0 ∧ (year % 100 ≠ 0 ∨ year % 400 = 0) then 29 else 28
  else if month = 4 ∨ month = 6 ∨ month = 9 ∨ month = 11 then 30
  else 31

/-- `full-date`: a year of four digits, a month, and a day of that month. -/
def isFullDate : List Char → Bool
  | [y₁, y₂, y₃, y₄, '-', m₁, m₂, '-', d₁, d₂] =>
    [y₁, y₂, y₃, y₄].all Char.isDigit && twoDigits 1 12 m₁ m₂ &&
      twoDigits 1 (daysInMonth (value [y₁, y₂, y₃, y₄]) (value [m₁, m₂])) d₁ d₂
  | _ => false

/-- `time-offset`: the letter Z of either case, or a sign, hours and minutes. -/
def isOffset : List Char → Bool
  | [zone] => zone = 'Z' || zone = 'z'
  | [sign, h₁, h₂, ':', m₁, m₂] =>
    (sign = '+' || sign = '-') && twoDigits 0 23 h₁ h₂ && twoDigits 0 59 m₁ m₂
  | _ => false

/-- What follows the second: an offset, or a fraction and an offset. -/
def isSecondEnd : List Char → Bool
  | '.' :: digit :: rest => digit.isDigit && isOffset (rest.dropWhile Char.isDigit)
  | offset => isOffset offset

/-- `full-time`: the second may be a leap second, and a fraction may follow it. -/
def isFullTime : List Char → Bool
  | h₁ :: h₂ :: ':' :: m₁ :: m₂ :: ':' :: s₁ :: s₂ :: rest =>
    twoDigits 0 23 h₁ h₂ && twoDigits 0 59 m₁ m₂ && twoDigits 0 60 s₁ s₂ && isSecondEnd rest
  | _ => false

/-- The text is a date-time. -/
def isDateTime (text : String) : Bool :=
  match text.toList.drop 10 with
  | letter :: time =>
    isFullDate (text.toList.take 10) && (letter = 'T' || letter = 't') && isFullTime time
  | [] => false

example : isDateTime "2024-02-29T23:59:60.25-08:00" = true := by decide

end Library.Rfc3339
