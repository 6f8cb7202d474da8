import TrustGrant.Document.Validated
import TrustGrant.Domain.Ownership
import TrustGrant.Ports.Signature
import TrustGrant.Revocation.Status

/-!
# Verified grants

What verification hands to its callers: the normalized document, which no longer carries
the signature, and what was established about it. Of the metadata, evaluation reads the
revocation state only.
-/

namespace TrustGrant

open Rust Library

/-- A validated document without its signature. It is what is evaluated, stored and compared. -/
@[ext] structure NormalizedTrustGrantDocument where
  lineage : GrantLineage
  issuerAuthority : AuthorityId
  ownershipAuthorityState : OwnershipAuthorityState
  keyId : KeyId
  targetScope : ValidatedScope
  capabilities : ValidatedCapabilities
  defaultAudienceScope : List ValidatedAudienceEntry
  resourceScope : SortedMap ResourceTypeName ValidatedResourceType
  globalTimeWindow : Option ValidatedTimeWindow
  revocation : Option ValidatedRevocation
  issuedAt : DateTime
  issuerPrincipal : Option ValidatedPrincipal
  interoperabilityProfile : Option InteroperabilityProfile

/-- Drop the signature of a validated document. All other fields are taken over as they are. -/
def NormalizedTrustGrantDocument.ofValidated (document : ValidatedTrustGrantDocument) :
    NormalizedTrustGrantDocument where
  lineage := document.lineage
  issuerAuthority := document.issuerAuthority
  ownershipAuthorityState := document.ownershipAuthorityState
  keyId := document.keyId
  targetScope := document.targetScope
  capabilities := document.capabilities
  defaultAudienceScope := document.defaultAudienceScope
  resourceScope := document.resourceScope
  globalTimeWindow := document.globalTimeWindow
  revocation := document.revocation
  issuedAt := document.issuedAt
  issuerPrincipal := document.issuerPrincipal
  interoperabilityProfile := document.interoperabilityProfile

/-- What verification established, and when. -/
@[ext] structure VerificationMetadata where
  verifiedAt : DateTime
  posture : VerificationPosture
  signerBinding : ResolvedSignerBinding
  ownership : OwnershipVerificationRecord
  revocation : VerifiedRevocationState
deriving DecidableEq

/-- A grant that passed verification. -/
structure VerifiedTrustGrant where
  document : NormalizedTrustGrantDocument
  metadata : VerificationMetadata

namespace VerifiedTrustGrant

/-- A verified grant is its document and what the verification established. -/
def new (document : NormalizedTrustGrantDocument) (metadata : VerificationMetadata) :
    VerifiedTrustGrant := ⟨document, metadata⟩

/-- The place of the grant in its series. -/
def lineage (grant : VerifiedTrustGrant) : GrantLineage := grant.document.lineage

/-- The identifier under which executions of this grant are counted. -/
def id (grant : VerifiedTrustGrant) : TrustGrantId := grant.lineage.trustgrantId

end VerifiedTrustGrant

/-- The authority did:i. -/
def smallAuthority : AuthorityId :=
  Results.valueOf (AuthorityId.new Text.asciiCaseMapping "did:i") (by decide +kernel)

/-- The key k of the authority did:i, active at one instant. -/
def smallBinding : ResolvedSignerBinding :=
  Results.valueOf (do
    let keyRecord ← AuthorityKeyRecord.new "k" "a" "p" smallInstant smallInstant
    let signatureProfile ← SignatureProfile.new "f" "RFC8785"
    return ⟨smallAuthority, keyRecord, signatureProfile, none⟩) (by decide +kernel)

/-- The metadata of a grant that its origin owns and that cannot be revoked. -/
def smallMetadata : VerificationMetadata where
  verifiedAt := smallInstant
  posture := .online
  signerBinding := smallBinding
  ownership := ⟨smallAuthority, smallAuthority, smallInstant, .staticOwner, none⟩
  revocation := .nonRevocable

end TrustGrant
