import Mathlib.Order.Basic

/-!
# Unsigned 64-bit arithmetic of the Rust standard library

Only the operations the program uses on counters: addition that reports overflow
and addition that saturates. Both are stated through the exact sum of the natural
values, so proofs about counters are linear arithmetic over naturals.
-/

namespace Rust.U64

/-- `u64::MAX`. -/
def max : UInt64 := 18446744073709551615

/-- `u64::checked_add`. -/
def checkedAdd (left right : UInt64) : Option UInt64 :=
  if fits : left.toNat + right.toNat < UInt64.size then
    some (UInt64.ofNatLT (left.toNat + right.toNat) fits)
  else none

/-- `u64::saturating_add`. -/
def saturatingAdd (left right : UInt64) : UInt64 := (checkedAdd left right).getD max

/-- Checked addition answers exactly the sum of the values. There is an answer exactly when the
sum fits into the type. -/
theorem checked_add_some_iff (left right sum : UInt64) :
    checkedAdd left right = some sum ↔ sum.toNat = left.toNat + right.toNat := by
  unfold checkedAdd
  split
  · rename_i fits
    rw [Option.some.injEq, ← UInt64.toNat_inj]
    simp only [UInt64.toNat_ofNatLT]
    exact eq_comm
  · rename_i overflows
    have bounded : sum.toNat < UInt64.size := sum.toNat_lt
    constructor
    · intro impossible
      cases impossible
    · intro exactSum
      omega

/-- Saturating addition is the sum of the values cut off at the largest value. It is the only
place where a counter may stop counting. -/
theorem saturating_add_to_nat (left right : UInt64) :
    (saturatingAdd left right).toNat = min (left.toNat + right.toNat) (UInt64.size - 1) := by
  unfold saturatingAdd checkedAdd
  split
  · rename_i fits
    simp only [Option.getD_some, UInt64.toNat_ofNatLT]
    omega
  · rename_i overflows
    simp only [Option.getD_none]
    change UInt64.size - 1 = _
    omega

end Rust.U64
