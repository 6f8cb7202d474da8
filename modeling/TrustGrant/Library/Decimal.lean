import TrustGrant.Library.PrefixCode
import Mathlib.Algebra.Group.Nat.Defs

/-!
# Decimal numerals

Natural numbers are written with their decimal digits, or padded with zeros to a
width. A numeral is terminated by any character that is not a digit, and its value
and width determine it.
-/

namespace Library.Decimal

open PrefixCode

/-- A character that ends a numeral. -/
def NonDigit (c : Char) : Prop := c.isDigit = false

/-- The decimal digits of a number, without leading zeros. -/
def digits (n : Nat) : List Char := Nat.toDigits 10 n

/-- The digits of a number after as many zeros as the width asks for. -/
def padded (width n : Nat) : List Char :=
  List.replicate (width - (digits n).length) '0' ++ digits n

/-- The number a list of digits stands for. -/
def value (text : List Char) : Nat := Nat.ofDigitChars 10 text 0

/-- Reading the digits of a number gives the number. -/
theorem value_digits (n : Nat) : value (digits n) = n :=
  Nat.ofDigitChars_toDigits (by decide) (by decide)

/-- The digits of a number are decimal digits. -/
theorem digits_are_digits (n : Nat) : ∀ c ∈ digits n, c.isDigit = true := by
  intro c member
  exact Nat.isDigit_of_mem_toDigits (by decide) (by decide) member

/-- So are they with zeros before them. -/
theorem padded_are_digits (width n : Nat) : ∀ c ∈ padded width n, c.isDigit = true := by
  intro c member
  rw [padded, List.mem_append] at member
  rcases member with zero | digit
  · rw [List.eq_of_mem_replicate zero]
    rfl
  · exact digits_are_digits n c digit

/-- Numerals end at the first character that is not a digit. -/
theorem digits_terminated : Terminated NonDigit digits := by
  intro left right leftStop rightStop leftRest rightRest leftStops rightStops same
  obtain ⟨sameDigits, sameRest⟩ := run_ends Char.isDigit (digits_are_digits left)
    (digits_are_digits right) leftStops rightStops same
  refine ⟨?_, sameRest⟩
  rw [← value_digits left, sameDigits, value_digits]

end Library.Decimal
