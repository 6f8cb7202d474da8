import TrustGrant.Document.OwnershipTransition
import TrustGrant.Document.Validated
import TrustGrant.Ports.Signature
import TrustGrant.Revocation.Status

/-!
# The proof sources

Verification asks three sources for what it cannot find in a document: the signer behind
an authority and a key, the revocation status of a grant, and the transitions of its
ownership. Each is a function supplied by the caller.

A source may answer differently at different times, or fail. Results that need more of it,
such as answers that do not depend on the time, say so.
-/

namespace TrustGrant

open Rust

/-- When verification takes place and how its material was obtained. The sources are given
both. -/
structure VerificationContext where
  verifiedAt : DateTime
  posture : VerificationPosture
deriving DecidableEq

/-- `AuthorityDiscoverySource::resolve_signer_binding`. -/
abbrev AuthorityDiscoverySource :=
  AuthorityId → KeyId → Option ValidatedPrincipal → VerificationContext →
    Except TrustGrantError ResolvedSignerBinding

/-- `RevocationProofSource::resolve_revocation_record`. -/
abbrev RevocationProofSource :=
  ValidatedTrustGrantDocument → ResolvedSignerBinding → VerificationContext →
    Except TrustGrantError RevocationRecord

/-- `OwnershipTransitionProofSource::resolve_ownership_transition_chain`. -/
abbrev OwnershipTransitionProofSource :=
  ValidatedTrustGrantDocument → VerificationContext →
    Except TrustGrantError (List RawOwnershipTransitionDocument)

/-- The sources of one verification. Nothing is assumed of them unless a result says so. -/
structure VerificationSources where
  discoverySource : AuthorityDiscoverySource
  revocationSource : RevocationProofSource
  ownershipSource : OwnershipTransitionProofSource

end TrustGrant
