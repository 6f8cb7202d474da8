import TrustGrant.Domain.Lineage
import TrustGrant.Revocation.Status

/-!
# Revocation proofs

A proof says what the status of one grant was at one time. A freshness policy turns it into
a record: how long an answer may be relied on depends on the answer.

The conversion of the period into a duration is translated with the library's own limits,
and the panic of its constructor is an outcome of its own.
-/

namespace TrustGrant

open Rust Library

/-- For how many seconds an answer may be relied on; zero is not allowed. An answer that a grant
is revoked may be relied on for another period. -/
structure RevocationFreshnessPolicy where
  nonRevokedTtlSeconds : UInt64
  maxStaleSeconds : UInt64
  ttlPositive : nonRevokedTtlSeconds ≠ 0
  stalePositive : maxStaleSeconds ≠ 0

/-- A policy is determined by its two numbers. -/
instance : DecidableEq RevocationFreshnessPolicy := fun left right =>
  decidable_of_iff (left.nonRevokedTtlSeconds = right.nonRevokedTtlSeconds ∧
      left.maxStaleSeconds = right.maxStaleSeconds) <| by
    cases left
    cases right
    simp

/-- `RevocationFreshnessPolicy::new`: neither period is zero. -/
def RevocationFreshnessPolicy.new (nonRevokedTtlSeconds maxStaleSeconds : UInt64) :
    Except TrustGrantError RevocationFreshnessPolicy :=
  if ttlPositive : nonRevokedTtlSeconds ≠ 0 then
    if stalePositive : maxStaleSeconds ≠ 0 then
      .ok ⟨nonRevokedTtlSeconds, maxStaleSeconds, ttlPositive, stalePositive⟩
    else .error .invalidRevocationPolicy
  else .error .invalidRevocationPolicy

/-- One answer about the status of a grant. How long it may be relied on is a matter of the
policy. -/
structure RevocationStatusProof where
  trustgrantId : TrustGrantId
  status : RevocationStatus
  checkedAt : DateTime
deriving DecidableEq

/-- The largest number of seconds a chrono duration holds. -/
def maxDurationSeconds : Nat := 9223372036854775

/-- `Duration::seconds` panics when the duration does not fit. A duration counts milliseconds in
a signed number. -/
def durationSeconds (seconds : Nat) : Except TrustGrantError Nat := do
  Results.rejectIf (seconds > maxDurationSeconds) .panicked
  return seconds

namespace RevocationStatusProof

/-- `into_record`: the period of freshness depends on the status. The addition of the period may
panic or leave the range of time stamps. -/
def intoRecord (proof : RevocationStatusProof) (sourceKind : RevocationSourceKind)
    (finality : ProofFinality) (policy : RevocationFreshnessPolicy) :
    Except TrustGrantError RevocationRecord := do
  let ttlSeconds := match proof.status with
    | .active => policy.nonRevokedTtlSeconds
    | .revoked => policy.maxStaleSeconds
  -- `i64::try_from`
  Results.rejectIf (ttlSeconds.toNat > 9223372036854775807) .invalidRevocationPolicy
  let duration ← durationSeconds ttlSeconds.toNat
  let freshUntil ← Results.okOr (proof.checkedAt.checkedAddSeconds duration)
    .invalidRevocationPolicy
  RevocationRecord.new proof.status sourceKind finality proof.checkedAt freshUntil

end RevocationStatusProof

end TrustGrant
