import TrustGrant.Verify.VerifiedGrant

/-!
# Consistency of metadata and document

What verification resolved from its sources is compared with what the document says: the
signer with the issuer, the ownership with the authorities, the revocation state with the
policy. A posture asks for a finality and, away from live sources, for a kind of evidence.

The comparisons are made in the order of the source, and the first one that fails gives the
error. Each of them is inverted where the results on accepted grants need it.
-/

namespace TrustGrant

open Rust Library

/-- What a posture requires of revocation evidence. -/
structure VerificationPolicy where
  minimumRevocationFinality : ProofFinality
  requireNonLiveRevocationSource : Bool

namespace VerificationPolicy

/-- Online verification takes any proof that was observed; the other postures ask for a trusted
snapshot from a source that is not live. -/
def forPosture : VerificationPosture → VerificationPolicy
  | .online => ⟨.observed, false⟩
  | .cached => ⟨.trustedSnapshot, true⟩
  | .offline => ⟨.trustedSnapshot, true⟩

/-- A proof is final enough when it ranks at least as the posture asks. -/
def acceptsRevocationFinality (policy : VerificationPolicy) (finality : ProofFinality) : Bool :=
  finality.rank ≥ policy.minimumRevocationFinality.rank

/-- A live source serves online verification only. -/
def acceptsRevocationSourceKind (policy : VerificationPolicy)
    (sourceKind : RevocationSourceKind) : Bool :=
  !policy.requireNonLiveRevocationSource || sourceKind.isNonLive

end VerificationPolicy

/-- The principal of the binding is the one the document names. -/
def samePrincipal : Option DelegatedPrincipalRef → Option ValidatedPrincipal → Bool
  | none, none => true
  | some bound, some named => bound.kind == named.kind && bound.id == named.id
  | _, _ => false

/-- The signer and the owner of the metadata are those that the document names. Each comparison
has its own error. -/
def ensureMetadataMatchesDocument (metadata : VerificationMetadata)
    (validatedDocument : ValidatedTrustGrantDocument)
    (canonicalProfile : CanonicalizationProfile) : Except TrustGrantError Unit := do
  let signerBinding := metadata.signerBinding
  Results.rejectIf (signerBinding.issuerAuthority ≠ validatedDocument.issuerAuthority)
    .signerAuthorityMismatch
  Results.rejectIf (signerBinding.keyRecord.keyId ≠ validatedDocument.keyId) .keyIdMismatch
  Results.rejectIf
    (signerBinding.signatureProfile.canonicalization.value ≠ canonicalProfile.discoveryName)
    .signatureProfileMismatch
  Results.rejectIf (signerBinding.keyRecord.isActiveAt metadata.verifiedAt = false)
    .signerKeyInactive
  Results.rejectIf
    (samePrincipal signerBinding.delegatedPrincipal validatedDocument.issuerPrincipal = false)
    .issuerPrincipalMismatch
  Results.rejectIf
    (metadata.ownership.originAuthority ≠ validatedDocument.ownershipAuthorityState.originAuthority)
    .ownershipOriginMismatch
  Results.rejectIf
    (metadata.ownership.activeOwningAuthority ≠
      validatedDocument.ownershipAuthorityState.activeOwningAuthority)
    .activeOwningAuthorityMismatch

/-- A grant is checked when it has a policy that says it can be revoked. -/
def requiresRevocationCheck (document : ValidatedTrustGrantDocument) : Bool :=
  document.revocation.any ValidatedRevocation.revocable

/-- A revocable grant has a checked state, any other grant has none. -/
def ensureRevocationStateMatchesDocument (metadata : VerificationMetadata)
    (validatedDocument : ValidatedTrustGrantDocument) : Except TrustGrantError Unit :=
  match requiresRevocationCheck validatedDocument, metadata.revocation with
  | true, .nonRevocable => .error .missingRevocationProof
  | false, .checked _ => .error .unexpectedRevocationProofForNonRevocableGrant
  | _, _ => .ok ()

/-- A checked state is fresh when the grant is verified, and its proof is what the posture asks
for. -/
def ensureRevocationStateIsAcceptable (metadata : VerificationMetadata) :
    Except TrustGrantError Unit :=
  match metadata.revocation.checkedRecord with
  | none => .ok ()
  | some record => do
    let policy := VerificationPolicy.forPosture metadata.posture
    Results.rejectIf (record.isFreshAt metadata.verifiedAt = false) .staleRevocationRecord
    Results.rejectIf (policy.requireNonLiveRevocationSource = true ∧
      policy.acceptsRevocationSourceKind record.sourceKind = false)
      .verificationPostureRequiresNonLiveRevocation
    Results.rejectIf (policy.acceptsRevocationFinality record.finality = false)
      .insufficientRevocationProofFinality

end TrustGrant
