import TrustGrant.Library.Decimal
import TrustGrant.Library.Gregorian
import Mathlib.Data.Prod.Lex
import Mathlib.Tactic.SplitIfs

/-!
# UTC time stamps of the chrono library

A time stamp is a count of seconds and a count of nanoseconds. The library keeps a
leap second as nanoseconds from one billion on, attached to the last second of its
minute, as its constructors and its RFC 3339 parser build it. Time stamps are ordered
by seconds, then by nanoseconds.

The text form follows `to_rfc3339_opts` with `SecondsFormat::AutoSi` and the letter Z
for the offset. It loses nothing: two time stamps with one text are equal.
-/

namespace Rust

open Library Library.PrefixCode Library.Decimal Library.Gregorian

/-- A UTC time stamp within chrono's range. -/
structure DateTime where
  timestamp : Int
  nanos : Nat
  earliest : -8334601228800 ≤ timestamp
  latest : timestamp ≤ 8210266876799
  nanosValid : nanos < 1000000000 ∨ (nanos < 2000000000 ∧ timestamp % 60 = 59)
deriving DecidableEq

namespace DateTime

/-- The order key of a time stamp. -/
def key (time : DateTime) : Int ×ₗ Nat := toLex (time.timestamp, time.nanos)

/-- Seconds and nanoseconds determine a time stamp. -/
theorem key_injective : Function.Injective key := by
  rintro ⟨leftSeconds, leftNanos, _, _, _⟩ ⟨rightSeconds, rightNanos, _, _, _⟩ same
  cases same
  rfl

/-- Time stamps are ordered by seconds, then by nanoseconds. -/
instance : LinearOrder DateTime := LinearOrder.lift' key key_injective

/-- `checked_add_signed` of a whole number of seconds. Adding any second leaves a leap
second. -/
def checkedAddSeconds (time : DateTime) (seconds : Nat) : Option DateTime :=
  if seconds = 0 then some time
  else
    let timestamp := time.timestamp + seconds
    if inRange : -8334601228800 ≤ timestamp ∧ timestamp ≤ 8210266876799 then
      some ⟨timestamp, time.nanos % 1000000000, inRange.1, inRange.2,
        .inl (Nat.mod_lt _ (by decide))⟩
    else none

/-- `write_hundreds`: two decimal digits. -/
def writeHundreds (n : Nat) : List Char := padded 2 n

/-- The year: four digits inside the four-digit years, otherwise a sign and at least
four digits. -/
def writeYear (year : Int) : List Char :=
  if 0 ≤ year ∧ year ≤ 9999 then padded 4 year.toNat
  else if year < 0 then '-' :: padded 4 year.natAbs
  else '+' :: padded 4 year.natAbs

/-- The fraction of a second: none, three, six or nine digits, the fewest that show it. -/
def writeFraction (nano : Nat) : List Char :=
  if nano = 0 then []
  else if nano % 1000000 = 0 then '.' :: padded 3 (nano / 1000000)
  else if nano % 1000 = 0 then '.' :: padded 6 (nano / 1000)
  else '.' :: padded 9 nano

/-- The second of the minute and the nanosecond as they are shown: a leap second is
shown as the second 60. -/
def shownSecond (secondOfDay nanos : Nat) : Nat × Nat :=
  if 1000000000 ≤ nanos then (secondOfDay % 60 + 1, nanos - 1000000000)
  else (secondOfDay % 60, nanos)

/-- `to_rfc3339_opts(SecondsFormat::AutoSi, true)`. -/
def toRfc3339 (time : DateTime) : List Char :=
  let date := civilFromDays (time.timestamp / 86400)
  let secondOfDay := (time.timestamp % 86400).toNat
  let (second, nano) := shownSecond secondOfDay time.nanos
  writeYear date.year ++ '-' :: writeHundreds date.month ++ '-' :: writeHundreds date.day ++
    'T' :: writeHundreds (secondOfDay / 3600) ++ ':' :: writeHundreds (secondOfDay / 60 % 60) ++
    ':' :: writeHundreds second ++ writeFraction nano ++ ['Z']

end DateTime

end Rust
