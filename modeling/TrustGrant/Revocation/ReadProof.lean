import TrustGrant.Revocation.Proof
import TrustGrant.Rust.Serde

/-!
# Reading revocation proofs

A revocation endpoint answers with a text that says what the status of one grant was at one
time. It is read within its size limit.

The text is read by the JSON library, which is given as a function, and the reader that
serde derives picks the fields of the answer.
-/

namespace TrustGrant

open Rust Rust.Serde Library

namespace Limits

/-- `MAX_REVOCATION_PROOF_JSON_BYTES` -/
def maxRevocationProofJsonBytes : Nat := 4 * 1024

end Limits

open Limits

/-- The status of a grant on the wire. -/
inductive RawRevocationStatus where
  | active
  | revoked

/-- The names of the two statuses. -/
def RawRevocationStatus.variants : List (String × RawRevocationStatus) :=
  [("active", .active), ("revoked", .revoked)]

/-- What an endpoint answers, as it is read. -/
structure RawRevocationStatusProof where
  trustgrantId : String
  status : RawRevocationStatus
  checkedAt : DateTime

/-- The three fields of an answer, all required. -/
def RawRevocationStatusProof.shape : Shape where
  fields := ["trustgrant_id", "status", "checked_at"]
  denyUnknownFields := true
  defaulted := 0

/-- The derived reader of answers. -/
def RawRevocationStatusProof.fromTree (readDateTime : String → Option DateTime)
    (tree : JsonTree) : Option RawRevocationStatusProof := do
  let members ← RawRevocationStatusProof.shape.members tree
  let trustgrantId ← requiredField readString "trustgrant_id" members
  let status ← requiredField (readVariant RawRevocationStatus.variants) "status" members
  let checkedAt ← requiredField (readText readDateTime) "checked_at" members
  return ⟨trustgrantId, status, checkedAt⟩

/-- The identifier of the grant is the only part that has to be checked. -/
def RevocationStatusProof.tryFrom (raw : RawRevocationStatusProof) :
    Except TrustGrantError RevocationStatusProof := do
  let trustgrantId ← TrustGrantId.fromStr raw.trustgrantId
  let status := match raw.status with
    | .active => RevocationStatus.active
    | .revoked => RevocationStatus.revoked
  return ⟨trustgrantId, status, raw.checkedAt⟩

/-- `serde_json::from_str` into a revocation proof. -/
def RawRevocationStatusProof.fromStr (readDateTime : String → Option DateTime)
    (parse : String → Option JsonTree) (json : String) : Option RawRevocationStatusProof :=
  (parse json).bind (RawRevocationStatusProof.fromTree readDateTime)

/-- What ends the reading of a revocation proof: a text that is none, or an error that other
functions return as well. -/
inductive RevocationProofError where
  | invalidRevocationProofDocument
  | shared (problem : TrustGrantError)
deriving DecidableEq

/-- `parse_revocation_status_proof`: the size, then the derived reader, then the identifier. -/
def parseRevocationStatusProof (fromStr : String → Option RawRevocationStatusProof)
    (json : String) : Except RevocationProofError RevocationStatusProof := do
  (ensureJsonSize "revocation_proof" (Text.len json) maxRevocationProofJsonBytes).mapError .shared
  let raw ← Results.okOr (fromStr json) .invalidRevocationProofDocument
  (RevocationStatusProof.tryFrom raw).mapError .shared

end TrustGrant
