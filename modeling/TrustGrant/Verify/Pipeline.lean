import TrustGrant.Ownership.Chain
import TrustGrant.Ownership.TransitionVerifier
import TrustGrant.Verify.Consistency

/-!
# The verification pipeline

A document is validated, its signer, ownership and revocation are resolved from the
sources, what was resolved is compared with the document, and the signature is verified
over the canonical bytes. Every error ends the verification.

The stages are translated as functions of the same names, with the sources as parameters.
The entry points differ in what they read and in where the evidence comes from, and all of
them end in the same stage.
-/

namespace TrustGrant

open Rust Library

/-- A verified grant with the bytes its signature covers. -/
structure VerificationArtifacts where
  verifiedGrant : VerifiedTrustGrant
  canonicalBytes : CanonicalTrustGrantBytes

/-- `verify_impl`: the metadata are compared with the document, the revocation state is judged,
and the signature is verified over the canonical bytes last. -/
def verifyImpl (rawDocument : RawTrustGrantDocument)
    (validatedDocument : ValidatedTrustGrantDocument) (verifier : SignatureVerifier)
    (metadata : VerificationMetadata) : Except TrustGrantError VerificationArtifacts := do
  let canonicalBytes ← canonicalizeTrustgrant rawDocument .rfc8785
  ensureMetadataMatchesDocument metadata validatedDocument .rfc8785
  ensureRevocationStateMatchesDocument metadata validatedDocument
  ensureRevocationStateIsAcceptable metadata
  verifier ⟨canonicalBytes.bytes, .rfc8785, metadata.signerBinding, validatedDocument.signature⟩
  return ⟨.new (.ofValidated validatedDocument) metadata, canonicalBytes⟩

/-- `VerificationPipeline::verify_raw_document`. -/
def verifyRawDocument (mapping : Text.CaseMapping) (rawDocument : RawTrustGrantDocument)
    (verifier : SignatureVerifier) (metadata : VerificationMetadata) :
    Except TrustGrantError VerificationArtifacts := do
  let validatedDocument ← ValidatedTrustGrantDocument.tryFrom mapping rawDocument
  verifyImpl rawDocument validatedDocument verifier metadata

/-- Verify the supplied transitions one by one; the first error ends the verification. -/
def verifyTransitions (mapping : Text.CaseMapping) (verifier : SignatureVerifier)
    (discoverySource : AuthorityDiscoverySource) (context : VerificationContext)
    (rawTransitions : List RawOwnershipTransitionDocument) :
    Except TrustGrantError (List OwnershipTransitionRecord) :=
  rawTransitions.mapM fun rawTransition => do
    let verified ← verifyRawTransition mapping rawTransition verifier discoverySource context
    return verified.record

/-- The revocation state of a document: checked when its policy makes it revocable. -/
def resolveRevocation (validatedDocument : ValidatedTrustGrantDocument)
    (revocationSource : RevocationProofSource) (signerBinding : ResolvedSignerBinding)
    (context : VerificationContext) : Except TrustGrantError VerifiedRevocationState :=
  if requiresRevocationCheck validatedDocument then do
    let record ← revocationSource validatedDocument signerBinding context
    return .checked record
  else .ok .nonRevocable

/-- `VerificationPipeline::verify_raw_document_with_sources`. Signer, chain and revocation are
resolved one after the other, and the last stage compares them with the document. -/
def verifyRawDocumentWithSources (mapping : Text.CaseMapping)
    (rawDocument : RawTrustGrantDocument) (verifier : SignatureVerifier)
    (sources : VerificationSources) (context : VerificationContext) :
    Except TrustGrantError VerificationArtifacts := do
  let validatedDocument ← ValidatedTrustGrantDocument.tryFrom mapping rawDocument
  let signerBinding ← sources.discoverySource validatedDocument.issuerAuthority
    validatedDocument.keyId validatedDocument.issuerPrincipal context
  let rawTransitions ← sources.ownershipSource validatedDocument context
  let transitions ← verifyTransitions mapping verifier sources.discoverySource context
    rawTransitions
  let ownership ← verifyDocumentOwnership validatedDocument transitions context.verifiedAt
  let revocation ← resolveRevocation validatedDocument sources.revocationSource signerBinding
    context
  verifyImpl rawDocument validatedDocument verifier
    ⟨context.verifiedAt, context.posture, signerBinding, ownership, revocation⟩

/-- A verifier that knows one signature. -/
def smallVerifier : SignatureVerifier := fun request =>
  Results.rejectIf (request.signature ≠ "s") .signatureVerificationFailed

/-- Sources that know the key k of every authority, no revocation and one chain of
transitions. -/
def smallSources (rawTransitions : List RawOwnershipTransitionDocument) :
    VerificationSources where
  discoverySource authority keyId _ _ := do
    Results.rejectIf (keyId ≠ smallBinding.keyRecord.keyId) .missingSigningKey
    return { smallBinding with issuerAuthority := authority }
  revocationSource _ _ _ := .error .missingRevocationProof
  ownershipSource _ _ := .ok rawTransitions

end TrustGrant
