import TrustGrant.Error.Errors
import TrustGrant.Rust.DateTime

/-!
# Revocation status

What is known about the revocation of a grant, from which kind of source, how final it is
and how long it may be relied on.

The constructor of a record refuses a period that ends before it begins. A record that is
read from storage does not pass through it.
-/

namespace TrustGrant

open Rust Library

/-- How final the evidence is, from the weakest to the strongest. The order is the derived one of
the declaration. -/
inductive ProofFinality where
  | unknown
  | observed
  | trustedSnapshot
  | finalized
deriving DecidableEq

/-- The place of a finality in the derived order. -/
def ProofFinality.rank : ProofFinality → Nat
  | .unknown => 0
  | .observed => 1
  | .trustedSnapshot => 2
  | .finalized => 3

/-- Whether a grant was revoked when its status was checked. -/
inductive RevocationStatus where
  | active
  | revoked
deriving DecidableEq

/-- Where the status of a grant was learnt. -/
inductive RevocationSourceKind where
  | api
  | snapshot
  | proofBundle
  | chainState
  | other
deriving DecidableEq

/-- Evidence that needs no live source. -/
def RevocationSourceKind.isNonLive (sourceKind : RevocationSourceKind) : Bool :=
  sourceKind == .snapshot || sourceKind == .proofBundle

/-- A checked revocation status and how long it may be relied on. The record can also
be read back from storage without its constructor, so the order of its two time stamps
is not part of the type. -/
structure RevocationRecord where
  status : RevocationStatus
  sourceKind : RevocationSourceKind
  finality : ProofFinality
  checkedAt : DateTime
  freshUntil : DateTime
deriving DecidableEq

namespace RevocationRecord

/-- `RevocationRecord::new`: a record is not stale before it was checked. -/
def new (status : RevocationStatus) (sourceKind : RevocationSourceKind)
    (finality : ProofFinality) (checkedAt freshUntil : DateTime) :
    Except TrustGrantError RevocationRecord := do
  Results.rejectIf (checkedAt > freshUntil) .invalidRevocationFreshnessWindow
  return ⟨status, sourceKind, finality, checkedAt, freshUntil⟩

/-- A record is fresh up to and including its end. Nothing compares the time with that of the
check. -/
def isFreshAt (record : RevocationRecord) (timestamp : DateTime) : Bool :=
  timestamp ≤ record.freshUntil

end RevocationRecord

/-- What verification established about revocation: that there is nothing to revoke, or a checked
record. -/
inductive VerifiedRevocationState where
  | nonRevocable
  | checked (record : RevocationRecord)
deriving DecidableEq

/-- The record of a checked state. A grant that cannot be revoked has none. -/
def VerifiedRevocationState.checkedRecord : VerifiedRevocationState → Option RevocationRecord
  | .nonRevocable => none
  | .checked record => some record

end TrustGrant
