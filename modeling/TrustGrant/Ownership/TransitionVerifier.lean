import TrustGrant.Ownership.CanonicalTransition
import TrustGrant.Ports.Verification

/-!
# Verification of one transition

A transition is verified when both of its parties signed: the predecessor the proposal,
the successor the acceptance, each with the key that the transition names for it.

The signers are resolved by the caller's source, and the keys have to be active at the time
of the verification. What is returned is the validated document with its signers and the
record that the verifier of chains works on.
-/

namespace TrustGrant

open Rust Library

/-- What was established about a transition, and when. The two signers are the ones that were
resolved. -/
structure OwnershipTransitionVerificationMetadata where
  verifiedAt : DateTime
  posture : VerificationPosture
  predecessorSignerBinding : ResolvedSignerBinding
  successorSignerBinding : ResolvedSignerBinding

/-- A transition that passed verification. -/
structure VerifiedOwnershipTransition where
  document : ValidatedOwnershipTransitionDocument
  metadata : OwnershipTransitionVerificationMetadata
  record : OwnershipTransitionRecord

/-- A party signs for itself, with the named key, under the profile and in the key's
period. -/
def ensureTransitionSignerBinding (signerBinding : ResolvedSignerBinding)
    (expectedAuthority : AuthorityId) (expectedKeyId : KeyId)
    (canonicalProfile : CanonicalizationProfile) (verifiedAt : DateTime) :
    Except TrustGrantError Unit := do
  Results.rejectIf (signerBinding.issuerAuthority ≠ expectedAuthority) .signerAuthorityMismatch
  Results.rejectIf (signerBinding.keyRecord.keyId ≠ expectedKeyId) .keyIdMismatch
  Results.rejectIf
    (signerBinding.signatureProfile.canonicalization.value ≠ canonicalProfile.discoveryName)
    .signatureProfileMismatch
  Results.rejectIf (signerBinding.keyRecord.isActiveAt verifiedAt = false) .signerKeyInactive
  Results.rejectIf (signerBinding.delegatedPrincipal.isSome = true) .issuerPrincipalMismatch

/-- `Result::map_err` with a constant error. -/
def mapError {α : Type} (result : Except TrustGrantError α) (problem : TrustGrantError) :
    Except TrustGrantError α :=
  match result with
  | .ok value => .ok value
  | .error _ => .error problem

/-- `OwnershipTransitionVerifier::verify_raw_document`. Both signers are resolved before either
signature is verified, and the signatures are over two different payloads. -/
def verifyRawTransition (mapping : Text.CaseMapping) (rawDocument : RawOwnershipTransitionDocument)
    (verifier : SignatureVerifier) (discoverySource : AuthorityDiscoverySource)
    (context : VerificationContext) : Except TrustGrantError VerifiedOwnershipTransition := do
  let validatedDocument ← ValidatedOwnershipTransitionDocument.tryFrom mapping rawDocument
  let predecessorAuthority := validatedDocument.parties.predecessorAuthority
  let successorAuthority := validatedDocument.parties.successorAuthority
  let predecessorSignature := validatedDocument.predecessorSignature
  let successorAcceptance := validatedDocument.successorAcceptance
  let predecessorSignerBinding ← discoverySource predecessorAuthority predecessorSignature.keyId
    none context
  let successorSignerBinding ← discoverySource successorAuthority successorAcceptance.keyId
    none context
  ensureTransitionSignerBinding predecessorSignerBinding predecessorAuthority
    predecessorSignature.keyId .rfc8785 context.verifiedAt
  ensureTransitionSignerBinding successorSignerBinding successorAuthority
    successorAcceptance.keyId .rfc8785 context.verifiedAt
  Results.rejectIf (successorAcceptance.acceptedAt > context.verifiedAt)
    .invalidOwnershipTransitionAcceptanceTime
  let proposalBytes ← canonicalizeTransitionProposal rawDocument .rfc8785
  mapError (verifier ⟨proposalBytes.bytes, .rfc8785, predecessorSignerBinding,
    predecessorSignature.signature⟩) .ownershipTransitionPredecessorSignatureFailed
  let acceptanceBytes ← canonicalizeTransitionAcceptance rawDocument .rfc8785
  mapError (verifier ⟨acceptanceBytes.bytes, .rfc8785, successorSignerBinding,
    successorAcceptance.signature⟩) .ownershipTransitionSuccessorSignatureFailed
  let record ← validatedDocument.toRecord
  return {
    document := validatedDocument
    metadata := ⟨context.verifiedAt, context.posture, predecessorSignerBinding,
      successorSignerBinding⟩
    record }

end TrustGrant
