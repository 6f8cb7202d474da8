import TrustGrant.Domain.Canonicalization
import TrustGrant.Library.PrefixCode
import Mathlib.Data.List.Lex
import Mathlib.Order.Lattice

/-!
# Keys in UTF-16 order

The code units of a text determine it, and keys are compared by their units from the
first on. So the order of keys is a linear one, in which equal keys are the same key.

The order is pulled back from lists of code units, where it is the lexicographic one. That
the units determine the text is a fact about a prefix code: the first unit of a character
says whether a second one follows.
-/

namespace TrustGrant

open Library

namespace Utf16Key

/-- A scalar value is no surrogate. -/
theorem scalar_range (c : Char) : c.toNat < 0xD800 ∨ 0xDFFF < c.toNat ∧ c.toNat < 0x110000 :=
  c.valid

/-- The units of one scalar value: itself, or a high and a low surrogate. No scalar is a
surrogate itself, which keeps the two forms apart. -/
theorem encode_char_cases (c : Char) :
    (∃ unit, encodeChar c = [unit] ∧ unit.toNat = c.toNat ∧
        (c.toNat < 0xD800 ∨ 0xDFFF < c.toNat)) ∨
      ∃ high low, encodeChar c = [high, low] ∧ high.toNat = 0xD800 + (c.toNat - 0x10000) / 0x400 ∧
        low.toNat = 0xDC00 + (c.toNat - 0x10000) % 0x400 ∧ 0x10000 ≤ c.toNat ∧
        high.toNat < 0xDC00 := by
  have range := scalar_range c
  unfold encodeChar
  split
  · rename_i single
    exact .inl ⟨_, rfl, by simp; omega, by omega⟩
  · rename_i pair
    exact .inr ⟨_, _, rfl, by simp; omega, by simp; omega, by omega, by simp; omega⟩

/-- The units of a scalar value show where they end. A first unit among the high surrogates
announces a second one, and the pair determines the scalar. -/
theorem encode_char_self_delimiting : PrefixCode.SelfDelimiting encodeChar := by
  intro left right leftRest rightRest same
  have equal : left.toNat = right.toNat → left = right :=
    fun sameValue => Char.ext (UInt32.toNat_inj.mp sameValue)
  rcases encode_char_cases left with
    ⟨unit, written, value, scalar⟩ | ⟨high, low, written, highValue, lowValue, large, small⟩ <;>
  rcases encode_char_cases right with
    ⟨unit', written', value', scalar'⟩ |
      ⟨high', low', written', highValue', lowValue', large', small'⟩ <;>
  rw [written, written'] at same <;>
  simp only [List.cons_append, List.nil_append, List.cons.injEq] at same
  · exact ⟨equal (by rw [← value, ← value', same.1]), same.2⟩
  · rw [same.1] at value
    omega
  · rw [← same.1] at value'
    omega
  · refine ⟨equal ?_, same.2.2⟩
    rw [same.1] at highValue
    rw [same.2.1] at lowValue
    omega

/-- The code units of a text determine it. The encoding of one character is self-delimiting, and
so is then that of a sequence. -/
theorem encode_utf16_injective : Function.Injective encodeUtf16 := by
  have visible : ∀ c, encodeChar c ≠ [] := by
    intro c
    rcases encode_char_cases c with ⟨unit, written, -, -⟩ | ⟨high, low, written, -, -⟩
    · exact written ▸ List.cons_ne_nil unit []
    · exact written ▸ List.cons_ne_nil high [low]
  intro left right same
  exact String.toList_inj.mp
    (PrefixCode.sequence_injective encode_char_self_delimiting visible same)

/-- The code units of a key as numbers. -/
def units (key : Utf16Key) : List Nat := (encodeUtf16 key.asStr).map UInt16.toNat

/-- The code units of a text determine it. -/
theorem units_injective : Function.Injective units := by
  intro left right same
  have sameUnits := List.map_injective_iff.mpr (fun _ _ => UInt16.toNat_inj.mp) same
  cases left
  cases right
  exact congrArg Utf16Key.mk (encode_utf16_injective sameUnits)

/-- The comparison is the lexicographic one. This gives the laws of an order from those of
lists. -/
theorem compare_units_lt_iff (left right : List UInt16) :
    compareUnits left right = .lt ↔ left.map UInt16.toNat < right.map UInt16.toNat := by
  fun_induction compareUnits left right with
  | case1 => simp
  | case2 => simp
  | case3 => simp
  | case4 left lefts right rights before =>
    simp [List.cons_lt_cons_iff, UInt16.lt_iff_toNat_lt.mp before]
  | case5 left lefts right rights notBefore after =>
    have later := UInt16.lt_iff_toNat_lt.mp after
    simp [List.cons_lt_cons_iff]
    omega
  | case6 left lefts right rights notBefore notAfter inductionHypothesis =>
    rw [UInt16.lt_iff_toNat_lt] at notBefore notAfter
    have same : left.toNat = right.toNat := by omega
    simp [inductionHypothesis, same]

/-- A key is before another when its units are. -/
theorem lt_iff_units (left right : Utf16Key) : left < right ↔ left.units < right.units :=
  compare_units_lt_iff _ _

/-- The order of keys. It is pulled back along the units of a key, which determine it, and it is
decided by the comparison of the source. -/
instance linearOrder : LinearOrder Utf16Key where
  le left right := ¬ right < left
  lt left right := left < right
  le_refl key := by simp [lt_iff_units]
  le_trans first second third := by
    simp only [lt_iff_units, not_lt]
    exact le_trans
  lt_iff_le_not_ge left right := by
    simp only [lt_iff_units, not_lt, not_le, iff_and_self]
    exact le_of_lt
  le_antisymm left right := by
    simp only [lt_iff_units, not_lt]
    exact fun before after => units_injective (le_antisymm before after)
  le_total left right := by
    simp only [lt_iff_units, not_lt]
    exact le_total _ _
  toDecidableLE left right := inferInstanceAs (Decidable (¬ right < left))
  toDecidableEq := inferInstance
  toDecidableLT left right := inferInstanceAs (Decidable (left < right))

end Utf16Key

end TrustGrant
