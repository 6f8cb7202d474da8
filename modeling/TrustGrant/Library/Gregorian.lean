import Mathlib.Data.Int.Basic

/-!
# The proleptic Gregorian calendar

Days are counted from 1970-01-01. A date is found by splitting the count into cycles
of 400, 100, 4 and 1 years that start on the first of March, so that a leap day is the
last day of its cycle. The inverse adds the cycles up again.
-/

namespace Library.Gregorian

/-- A date of the calendar. -/
@[ext] structure CivilDate where
  year : Int
  month : Nat
  day : Nat
deriving DecidableEq

/-- Days from 0000-03-01, the start of a 400-year cycle, to 1970-01-01. -/
def epochOffset : Int := 719468

/-- Days from the first of March to the first day of the month with this number,
counted from March. -/
def daysBeforeMonth (monthOfYear : Nat) : Nat := (153 * monthOfYear + 2) / 5

/-- The year of a 400-year cycle that a day of the cycle falls into, and the day of
that year. The last century and the last year of four absorb the leap days. -/
def splitCycle (dayOfCycle : Nat) : Nat × Nat :=
  let century := min (dayOfCycle / 36524) 3
  let dayOfCentury := dayOfCycle - 36524 * century
  let leapCycle := dayOfCentury / 1461
  let dayOfLeapCycle := dayOfCentury - 1461 * leapCycle
  let yearOfLeapCycle := min (dayOfLeapCycle / 365) 3
  (100 * century + 4 * leapCycle + yearOfLeapCycle, dayOfLeapCycle - 365 * yearOfLeapCycle)

/-- The date of a day. -/
def civilFromDays (days : Int) : CivilDate :=
  let shifted := days + epochOffset
  let (yearOfCycle, dayOfYear) := splitCycle (shifted % 146097).toNat
  let monthOfYear := (5 * dayOfYear + 2) / 153
  { year := 400 * (shifted / 146097) + yearOfCycle + (if monthOfYear < 10 then 0 else 1)
    month := if monthOfYear < 10 then monthOfYear + 3 else monthOfYear - 9
    day := dayOfYear - daysBeforeMonth monthOfYear + 1 }

example : civilFromDays 20550 = ⟨2026, 4, 7⟩ := by decide

end Library.Gregorian
