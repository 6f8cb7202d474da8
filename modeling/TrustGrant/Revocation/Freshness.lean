import TrustGrant.Document.Validated
import TrustGrant.Revocation.Proof

/-!
# How long a revocation answer is fresh

An answer is fresh until its time plus the seconds that the policy grants it. The sum
passes through a signed number and a duration with a narrower range. The source rejects
numbers that are too large for the first, and ends where they are too large for the second.

The result is an equivalence over all three ranges of numbers. The comparison of instants is
one of natural numbers, into which the range of representable times enters at both ends.
-/

namespace TrustGrant

open Rust Library

/-- The seconds that a policy grants an answer. -/
def RevocationFreshnessPolicy.ttlSeconds (policy : RevocationFreshnessPolicy) :
    RevocationStatus → UInt64
  | .active => policy.nonRevokedTtlSeconds
  | .revoked => policy.maxStaleSeconds

/-- A period of freshness is never empty, since the policy refuses zero. -/
theorem RevocationFreshnessPolicy.ttl_positive (policy : RevocationFreshnessPolicy)
    (status : RevocationStatus) : 0 < (policy.ttlSeconds status).toNat := by
  have positive : policy.ttlSeconds status ≠ 0 := by
    cases status with
    | active => exact policy.ttlPositive
    | revoked => exact policy.stalePositive
  exact Nat.pos_of_ne_zero fun zero => positive (UInt64.toNat_inj.mp zero)

namespace RevocationStatusProof

variable (proof : RevocationStatusProof) (sourceKind : RevocationSourceKind)
  (finality : ProofFinality) (policy : RevocationFreshnessPolicy)

/-- An instant so many seconds after another. Of a leap second only its fraction is kept. -/
def IsSecondsAfter (start : DateTime) (seconds : Nat) (instant : DateTime) : Prop :=
  instant.timestamp = start.timestamp + seconds ∧ instant.nanos = start.nanos % 1000000000

/-- What a record should be: the instant so many seconds after the check, where it can be
represented, and an error where it cannot. -/
structure ComputesFreshness : Prop where
  returns : proof.intoRecord sourceKind finality policy ≠ .error .panicked
  exact : ∀ instant,
    IsSecondsAfter proof.checkedAt (policy.ttlSeconds proof.status).toNat instant →
      proof.intoRecord sourceKind finality policy =
        .ok ⟨proof.status, sourceKind, finality, proof.checkedAt, instant⟩
  rejects : (¬ ∃ instant,
    IsSecondsAfter proof.checkedAt (policy.ttlSeconds proof.status).toNat instant) →
      ∃ problem, proof.intoRecord sourceKind finality policy = .error problem
  ordered : ∀ record, proof.intoRecord sourceKind finality policy = .ok record →
    record.checkedAt ≤ record.freshUntil

end RevocationStatusProof

/-- A positive number of seconds is added exactly when the sum can be represented. Instants are
compared by one number, and the range of it is what the sum must not leave. -/
theorem checked_add_seconds_eq_some_iff (start : DateTime) (seconds : Nat) (instant : DateTime)
    (positive : 0 < seconds) :
    start.checkedAddSeconds seconds = some instant ↔
      RevocationStatusProof.IsSecondsAfter start seconds instant := by
  unfold DateTime.checkedAddSeconds RevocationStatusProof.IsSecondsAfter
  rw [if_neg (by omega)]
  constructor
  · intro added
    dsimp only at added
    split at added
    · cases added
      exact ⟨rfl, rfl⟩
    · cases added
  · rintro ⟨sameTimestamp, sameNanos⟩
    have earliest := instant.earliest
    have latest := instant.latest
    rw [dif_pos ⟨by omega, by omega⟩]
    exact congrArg some (DateTime.key_injective (Prod.ext sameTimestamp.symm sameNanos.symm))

namespace RevocationStatusProof

variable (proof : RevocationStatusProof) (sourceKind : RevocationSourceKind)
  (finality : ProofFinality) (policy : RevocationFreshnessPolicy)

/-- The steps of the conversion, for the seconds that the policy grants. Both kinds of answers
take the same steps with different seconds. -/
theorem into_record_eq : proof.intoRecord sourceKind finality policy = (do
    Results.rejectIf ((policy.ttlSeconds proof.status).toNat > 9223372036854775807)
      .invalidRevocationPolicy
    let duration ← durationSeconds (policy.ttlSeconds proof.status).toNat
    let freshUntil ← Results.okOr (proof.checkedAt.checkedAddSeconds duration)
      .invalidRevocationPolicy
    RevocationRecord.new proof.status sourceKind finality proof.checkedAt freshUntil) := by
  cases proof with
  | mk trustgrantId status checkedAt =>
    cases status with
    | active => rfl
    | revoked => rfl

/-- Numbers that are no signed ones are rejected. -/
theorem into_record_of_unsigned
    (large : 9223372036854775807 < (policy.ttlSeconds proof.status).toNat) :
    proof.intoRecord sourceKind finality policy = .error .invalidRevocationPolicy := by
  rw [into_record_eq, Results.rejectIf, if_pos large]
  rfl

/-- Numbers that are no durations end the program. -/
theorem into_record_of_no_duration
    (signed : (policy.ttlSeconds proof.status).toNat ≤ 9223372036854775807)
    (large : maxDurationSeconds < (policy.ttlSeconds proof.status).toNat) :
    proof.intoRecord sourceKind finality policy = .error .panicked := by
  rw [into_record_eq, Results.rejectIf, if_neg (not_lt.mpr signed), durationSeconds,
    Results.rejectIf, if_pos large]
  rfl

/-- Durations are added. A sum that is out of range is reported as an invalid policy. -/
theorem into_record_of_duration
    (small : (policy.ttlSeconds proof.status).toNat ≤ maxDurationSeconds) :
    proof.intoRecord sourceKind finality policy =
      (Results.okOr (proof.checkedAt.checkedAddSeconds (policy.ttlSeconds proof.status).toNat)
        .invalidRevocationPolicy >>= fun freshUntil =>
          RevocationRecord.new proof.status sourceKind finality proof.checkedAt freshUntil) := by
  have signed : ¬ (policy.ttlSeconds proof.status).toNat > 9223372036854775807 := by
    unfold maxDurationSeconds at small
    omega
  rw [into_record_eq, Results.rejectIf, if_neg signed, durationSeconds, Results.rejectIf,
    if_neg (not_lt.mpr small)]
  rfl

/-- An instant after a check is not before it. So the record that is made is never refused for
its order. -/
theorem checked_before (instant : DateTime)
    (after : IsSecondsAfter proof.checkedAt (policy.ttlSeconds proof.status).toNat instant) :
    proof.checkedAt ≤ instant := by
  have positive := policy.ttl_positive proof.status
  have later : proof.checkedAt.timestamp < instant.timestamp := by
    rw [after.1]
    omega
  exact le_of_lt (Prod.Lex.toLex_lt_toLex.mpr (.inl later))

/-- A rejection is right where no instant can be represented. Then there is no record that the
conversion could have made. -/
theorem computes_of_rejected
    (noInstant : ∀ instant,
      ¬ IsSecondsAfter proof.checkedAt (policy.ttlSeconds proof.status).toNat instant)
    (rejected : proof.intoRecord sourceKind finality policy = .error .invalidRevocationPolicy) :
    ComputesFreshness proof sourceKind finality policy where
  returns := by
    rw [rejected]
    rintro ⟨⟩
  exact instant after := absurd after (noInstant instant)
  rejects _ := ⟨_, rejected⟩
  ordered record made := by
    rw [rejected] at made
    cases made

/-- The freshness of a record is computed as it should be exactly when the seconds of the policy
fit into a duration, or do not even fit into a signed number. In the first range the sum is
computed or refused, in the last one the conversion fails with an error, and between them the
constructor of durations panics. -/
theorem freshness_computed_iff :
    ComputesFreshness proof sourceKind finality policy ↔
      (policy.ttlSeconds proof.status).toNat ≤ maxDurationSeconds ∨
        9223372036854775807 < (policy.ttlSeconds proof.status).toNat := by
  have added := fun instant => checked_add_seconds_eq_some_iff proof.checkedAt
    (policy.ttlSeconds proof.status).toNat instant (policy.ttl_positive proof.status)
  constructor
  · intro computes
    by_contra neither
    rw [not_or, not_le, not_lt] at neither
    exact computes.returns (into_record_of_no_duration _ _ _ _ neither.2 neither.1)
  · rintro (small | large)
    · have steps := into_record_of_duration proof sourceKind finality policy small
      cases sum : proof.checkedAt.checkedAddSeconds (policy.ttlSeconds proof.status).toNat with
      | none =>
        rw [sum] at steps
        refine computes_of_rejected _ _ _ _ (fun instant after => ?_) steps
        rw [(added instant).mpr after] at sum
        cases sum
      | some freshUntil =>
        have ordered := checked_before proof policy freshUntil ((added freshUntil).mp sum)
        have made : proof.intoRecord sourceKind finality policy =
            .ok ⟨proof.status, sourceKind, finality, proof.checkedAt, freshUntil⟩ := by
          rw [steps, sum, Results.okOr]
          show RevocationRecord.new _ _ _ _ _ = _
          rw [RevocationRecord.new, Results.rejectIf, if_neg (not_lt.mpr ordered)]
          rfl
        exact {
          returns := by
            rw [made]
            rintro ⟨⟩
          exact := fun instant after => by
            rw [(added instant).mpr after, Option.some.injEq] at sum
            rw [made, sum]
          rejects := fun absent => absurd ⟨freshUntil, (added freshUntil).mp sum⟩ absent
          ordered := fun record isMade => by
            rw [made] at isMade
            cases isMade
            exact ordered }
    · refine computes_of_rejected _ _ _ _ (fun instant after => ?_)
        (into_record_of_unsigned _ _ _ _ large)
      have earliest := proof.checkedAt.earliest
      have latest := instant.latest
      rw [after.1] at latest
      omega

/-- An answer at noon on 2026-04-07. -/
def smallAnswer : RevocationStatusProof := ⟨⟨⟨0⟩⟩, .active, smallInstant⟩

/-- A policy of ten to the sixteenth seconds. -/
def longPolicy : RevocationFreshnessPolicy :=
  ⟨10000000000000000, 10000000000000000, by decide, by decide⟩

/-- A policy whose period is too long for a duration makes the conversion panic. The seconds fit
into a signed number, which is checked, but not into a duration, which counts milliseconds. -/
theorem long_freshness_panics :
    ¬ ComputesFreshness smallAnswer .api .observed longPolicy :=
  fun computes => computes.returns (into_record_of_no_duration _ _ _ _ (by decide) (by decide))

end RevocationStatusProof

end TrustGrant
