import TrustGrant.Domain.Lineage
import Mathlib.Data.List.TakeWhile

/-!
# The text of identifiers

An identifier is written as its sort, an underscore and its UUID in lower-case hexadecimal
digits with hyphens. Reading this text gives the identifier back.

The digits are written and read group by group. Both directions are about natural numbers in
base 16, and only the last step puts the hyphens in.
-/

namespace TrustGrant

open Rust Library

namespace Uuid

/-- One lower-case hexadecimal digit. -/
def hexDigit (digit : Nat) : Char :=
  if digit < 10 then Char.ofNat (48 + digit) else Char.ofNat (87 + digit)

/-- The lowest hexadecimal digits of a number, the highest of them first. -/
def hexDigits (n : Nat) : Nat → List Char
  | 0 => []
  | count + 1 => hexDigits (n / 16) count ++ [hexDigit (n % 16)]

/-- The text of a UUID: its digits in five groups. -/
def hyphenated (uuid : Uuid) : List Char :=
  let digits := hexDigits uuid.bits.toNat 32
  digits.take 8 ++ '-' :: ((digits.drop 8).take 4 ++ '-' :: ((digits.drop 12).take 4 ++ '-' ::
    ((digits.drop 16).take 4 ++ '-' :: digits.drop 20)))

/-- A written digit is read back. -/
theorem hex_value_digit (digit : Nat) (single : digit < 16) :
    hexValue (hexDigit digit) = some digit := by
  have every : ∀ digit < 16, hexValue (hexDigit digit) = some digit := by decide
  exact every digit single

/-- There are as many digits as were asked for. -/
theorem hex_digits_length (n count : Nat) : (hexDigits n count).length = count := by
  induction count generalizing n with
  | zero => rfl
  | succ count inductionHypothesis =>
    rw [hexDigits, List.length_append, inductionHypothesis]
    rfl

/-- Written digits are read back as a number. The induction is on the number of digits: the last
digit is the remainder, those before it are the quotient. -/
theorem read_hex_digits (n count : Nat) (fits : n < 16 ^ count) :
    ∃ values, (hexDigits n count).mapM hexValue = some values ∧ values.length = count ∧
      values.foldl (fun total digit => 16 * total + digit) 0 = n := by
  induction count generalizing n with
  | zero =>
    have zero : n = 0 := by omega
    exact ⟨[], rfl, rfl, zero.symm⟩
  | succ count inductionHypothesis =>
    obtain ⟨values, read, counted, total⟩ := inductionHypothesis (n / 16)
      (Nat.div_lt_of_lt_mul (by rw [← Nat.pow_succ']; exact fits))
    refine ⟨values ++ [n % 16], ?_, ?_, ?_⟩
    · rw [hexDigits, List.mapM_append, read]
      simp [hex_value_digit (n % 16) (Nat.mod_lt n (by decide))]
    · rw [List.length_append, counted]
      rfl
    · rw [List.foldl_append, total]
      simp only [List.foldl_cons, List.foldl_nil]
      omega

/-- The digits of a UUID are read as the UUID. -/
theorem parse_simple_digits (uuid : Uuid) :
    parseSimple (hexDigits uuid.bits.toNat 32) = some uuid := by
  obtain ⟨values, read, counted, total⟩ := read_hex_digits uuid.bits.toNat 32
    (by have fits := uuid.bits.isLt; omega)
  simp [parseSimple, read, counted, total]

/-- Five groups of digits are put together again. With their lengths known, the hyphens stand
where the reader looks for them. -/
theorem parse_hyphenated_groups (first second third fourth fifth : List Char)
    (firstEight : first.length = 8) (secondFour : second.length = 4) (thirdFour : third.length = 4)
    (fourthFour : fourth.length = 4) (fifthTwelve : fifth.length = 12) :
    parseHyphenated
        (first ++ '-' :: (second ++ '-' :: (third ++ '-' :: (fourth ++ '-' :: fifth)))) =
      parseSimple (first ++ second ++ third ++ fourth ++ fifth) := by
  unfold parseHyphenated
  rw [if_pos]
  · congr 1
    simp [List.drop_append, List.drop_eq_nil_of_le, firstEight, secondFour, thirdFour, fourthFour]
  · simp [firstEight, secondFour, thirdFour, fourthFour, fifthTwelve]

/-- The text of a UUID is read back. Its length selects the hyphenated form, and the groups are
the digits of one number. -/
theorem parse_str_hyphenated (uuid : Uuid) :
    parseStr (String.ofList uuid.hyphenated) = some uuid := by
  have digits := hex_digits_length uuid.bits.toNat 32
  have whole : (hexDigits uuid.bits.toNat 32).take 8 ++
      ((hexDigits uuid.bits.toNat 32).drop 8).take 4 ++
      ((hexDigits uuid.bits.toNat 32).drop 12).take 4 ++
      ((hexDigits uuid.bits.toNat 32).drop 16).take 4 ++ (hexDigits uuid.bits.toNat 32).drop 20 =
        hexDigits uuid.bits.toNat 32 := by
    rw [← List.take_add, ← List.take_add, ← List.take_add, List.take_append_drop]
  have length : uuid.hyphenated.length = 36 := by simp [hyphenated, digits]
  have read : parseHyphenated uuid.hyphenated = some uuid := by
    rw [hyphenated, parse_hyphenated_groups _ _ _ _ _ (by simp [digits]) (by simp [digits])
      (by simp [digits]) (by simp [digits]) (by simp [digits]), whole, parse_simple_digits]
  simp [parseStr, length, read]

end Uuid

namespace PrefixedUuid

variable {expectedPrefix : String}

/-- The text of an identifier. -/
def toString (id : PrefixedUuid expectedPrefix) : String :=
  String.ofList (expectedPrefix.toList ++ '_' :: id.uuid.hyphenated)

/-- The text of an identifier is read back. The sort has no underscore, so the first one
separates it from the UUID. -/
theorem from_str_to_string (unseparated : '_' ∉ expectedPrefix.toList)
    (id : PrefixedUuid expectedPrefix) : fromStr expectedPrefix id.toString = .ok id := by
  have different : ∀ c ∈ expectedPrefix.toList, decide (c ≠ '_') = true := by
    intro c member
    exact decide_eq_true fun same => unseparated (same ▸ member)
  have split : Text.splitOnce id.toString '_' =
      some (expectedPrefix, String.ofList id.uuid.hyphenated) := by
    unfold Text.splitOnce Text.before toString
    rw [String.toList_ofList, List.dropWhile_append_of_pos different,
      List.takeWhile_append_of_pos different]
    simp
  have parsed : parsePrefixedUuid id.toString expectedPrefix = .ok id.uuid := by
    simp only [parsePrefixedUuid, Results.bind_ok_iff, Results.ok_or_ok_iff]
    refine ⟨_, split, (), (Results.reject_if_ok_iff _ _ _).mpr (by simp), ?_⟩
    exact Uuid.parse_str_hyphenated id.uuid
  rw [fromStr, parsed]
  rfl

end PrefixedUuid

end TrustGrant
