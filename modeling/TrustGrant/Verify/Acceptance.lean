import TrustGrant.Verify.Pipeline
import TrustGrant.Verify.SignatureCoverage

/-!
# What an accepted document went through

The pipeline accepts a document exactly when every stage does. The consistency check
compares the signer with the issuer and the established ownership with the authorities of
the document, but the issuer with neither of these authorities. So a grant is issued by
the owner of its resources exactly when its document says so itself.

The pipeline is inverted once, into the list of its stages. Who issued a grant is then a
comparison of two texts of the wire document, as both authorities are made from these texts
by one function.
-/

namespace TrustGrant

open Rust Library

/-- The metadata agrees with the document. The fields are the comparisons of the source; the
issuer is compared with the signer and with nothing else. -/
structure MetadataMatches (metadata : VerificationMetadata)
    (document : ValidatedTrustGrantDocument) (canonicalProfile : CanonicalizationProfile) :
    Prop where
  issuer : metadata.signerBinding.issuerAuthority = document.issuerAuthority
  keyId : metadata.signerBinding.keyRecord.keyId = document.keyId
  canonicalization : metadata.signerBinding.signatureProfile.canonicalization.value =
    canonicalProfile.discoveryName
  active : metadata.signerBinding.keyRecord.isActiveAt metadata.verifiedAt = true
  principal : samePrincipal metadata.signerBinding.delegatedPrincipal document.issuerPrincipal =
    true
  origin : metadata.ownership.originAuthority = document.ownershipAuthorityState.originAuthority
  owner : metadata.ownership.activeOwningAuthority =
    document.ownershipAuthorityState.activeOwningAuthority

/-- A revocation record is fresh, and its source and finality suffice for the posture. -/
structure RevocationAcceptable (metadata : VerificationMetadata) (record : RevocationRecord) :
    Prop where
  fresh : record.isFreshAt metadata.verifiedAt = true
  source : (VerificationPolicy.forPosture metadata.posture).acceptsRevocationSourceKind
    record.sourceKind = true
  finality : (VerificationPolicy.forPosture metadata.posture).acceptsRevocationFinality
    record.finality = true

/-- The metadata passes exactly when it agrees with the document. The comparisons are collected
into named fields, in the order of the source. -/
theorem ensure_metadata_matches_document_ok_iff (metadata : VerificationMetadata)
    (document : ValidatedTrustGrantDocument) (canonicalProfile : CanonicalizationProfile)
    (done : Unit) :
    ensureMetadataMatchesDocument metadata document canonicalProfile = .ok done ↔
      MetadataMatches metadata document canonicalProfile := by
  simp only [ensureMetadataMatchesDocument, Results.bind_ok_iff, Results.reject_if_ok_iff,
    exists_const, ne_eq, not_not, Bool.not_eq_false]
  constructor
  · rintro ⟨issuer, keyId, canonicalization, active, principal, origin, owner⟩
    exact ⟨issuer, keyId, canonicalization, active, principal, origin, owner⟩
  · rintro ⟨issuer, keyId, canonicalization, active, principal, origin, owner⟩
    exact ⟨issuer, keyId, canonicalization, active, principal, origin, owner⟩

/-- A revocation state passes exactly when it is checked for a revocable grant and absent
for any other. -/
theorem ensure_revocation_state_matches_document_ok_iff (metadata : VerificationMetadata)
    (document : ValidatedTrustGrantDocument) (done : Unit) :
    ensureRevocationStateMatchesDocument metadata document = .ok done ↔
      requiresRevocationCheck document = metadata.revocation.checkedRecord.isSome := by
  unfold ensureRevocationStateMatchesDocument
  cases requiresRevocationCheck document <;> cases metadata.revocation <;>
    simp [VerifiedRevocationState.checkedRecord]

/-- A revocation state passes exactly when its record, if it has one, is acceptable. A grant that
cannot be revoked has no record, and its state passes. -/
theorem ensure_revocation_state_is_acceptable_ok_iff (metadata : VerificationMetadata)
    (done : Unit) :
    ensureRevocationStateIsAcceptable metadata = .ok done ↔
      ∀ record ∈ metadata.revocation.checkedRecord, RevocationAcceptable metadata record := by
  unfold ensureRevocationStateIsAcceptable
  cases metadata.revocation.checkedRecord with
  | none => simp
  | some record =>
    simp only [Results.bind_ok_iff, Results.reject_if_ok_iff, exists_const, not_and,
      Bool.not_eq_false, Option.mem_def, Option.some.injEq, forall_eq']
    constructor
    · rintro ⟨fresh, source, finality⟩
      refine ⟨fresh, ?_, finality⟩
      cases required : (VerificationPolicy.forPosture
        metadata.posture).requireNonLiveRevocationSource with
      | false => simp [VerificationPolicy.acceptsRevocationSourceKind, required]
      | true => exact source required
    · rintro ⟨fresh, source, finality⟩
      exact ⟨fresh, fun _ => source, finality⟩

/-- The signed bytes of a document. -/
def signedBytes (rawDocument : RawTrustGrantDocument) : ByteArray :=
  (String.ofList (writeTrustgrantDocument rawDocument)).toUTF8

/-- The last stage accepts exactly when the metadata passes its three checks and the
verifier accepts the signature over the canonical bytes. -/
theorem verify_impl_ok_iff (rawDocument : RawTrustGrantDocument)
    (document : ValidatedTrustGrantDocument) (verifier : SignatureVerifier)
    (metadata : VerificationMetadata) (artifacts : VerificationArtifacts) :
    verifyImpl rawDocument document verifier metadata = .ok artifacts ↔
      MetadataMatches metadata document .rfc8785 ∧
      requiresRevocationCheck document = metadata.revocation.checkedRecord.isSome ∧
      (∀ record ∈ metadata.revocation.checkedRecord, RevocationAcceptable metadata record) ∧
      verifier ⟨signedBytes rawDocument, .rfc8785, metadata.signerBinding,
        document.signature⟩ = .ok () ∧
      artifacts = ⟨.new (.ofValidated document) metadata, ⟨signedBytes rawDocument⟩⟩ := by
  have canonical : canonicalizeTrustgrant rawDocument .rfc8785 = .ok ⟨signedBytes rawDocument⟩ :=
    rfl
  simp only [verifyImpl, canonical, Results.bind_ok_iff, Except.ok.injEq, exists_eq_left',
    ensure_metadata_matches_document_ok_iff, ensure_revocation_state_matches_document_ok_iff,
    ensure_revocation_state_is_acceptable_ok_iff, exists_const, Results.pure_ok_iff]
  constructor
  · rintro ⟨matched, state, acceptable, ⟨⟩, signed, rfl⟩
    exact ⟨matched, state, acceptable, signed, rfl⟩
  · rintro ⟨matched, state, acceptable, signed, rfl⟩
    exact ⟨matched, state, acceptable, ⟨⟩, signed, rfl⟩

variable {mapping : Text.CaseMapping} {rawDocument : RawTrustGrantDocument}
  {verifier : SignatureVerifier} {sources : VerificationSources} {context : VerificationContext}
  {artifacts : VerificationArtifacts}

/-- A document is accepted exactly when it validates, the sources resolve its signer, its
transitions and, for a revocable grant, its revocation, and the last stage accepts what was
resolved. -/
theorem verify_raw_document_with_sources_ok_iff :
    verifyRawDocumentWithSources mapping rawDocument verifier sources context = .ok artifacts ↔
      ∃ document signerBinding rawTransitions transitions ownership revocation,
        ValidatedTrustGrantDocument.tryFrom mapping rawDocument = .ok document ∧
        sources.discoverySource document.issuerAuthority document.keyId document.issuerPrincipal
          context = .ok signerBinding ∧
        sources.ownershipSource document context = .ok rawTransitions ∧
        verifyTransitions mapping verifier sources.discoverySource context rawTransitions =
          .ok transitions ∧
        verifyDocumentOwnership document transitions context.verifiedAt = .ok ownership ∧
        resolveRevocation document sources.revocationSource signerBinding context =
          .ok revocation ∧
        verifyImpl rawDocument document verifier
          ⟨context.verifiedAt, context.posture, signerBinding, ownership, revocation⟩ =
            .ok artifacts := by
  simp only [verifyRawDocumentWithSources, Results.bind_ok_iff]
  constructor
  · rintro ⟨document, validated, signerBinding, resolved, rawTransitions, supplied, transitions,
      verified, ownership, established, revocation, checked, accepted⟩
    exact ⟨document, signerBinding, rawTransitions, transitions, ownership, revocation, validated,
      resolved, supplied, verified, established, checked, accepted⟩
  · rintro ⟨document, signerBinding, rawTransitions, transitions, ownership, revocation, validated,
      resolved, supplied, verified, established, checked, accepted⟩
    exact ⟨document, validated, signerBinding, resolved, rawTransitions, supplied, transitions,
      verified, ownership, established, revocation, checked, accepted⟩

/-- Two texts name one authority when they agree once trimmed and in lower case. -/
def SameAuthority (mapping : Text.CaseMapping) (left right : String) : Prop :=
  mapping.toLowercase (Text.trim left) = mapping.toLowercase (Text.trim right)

/-- Accepted identifiers are equal exactly when their texts name one authority. -/
theorem same_authority_iff (left right : String) (leftId rightId : AuthorityId)
    (leftAccepted : AuthorityId.new mapping left = .ok leftId)
    (rightAccepted : AuthorityId.new mapping right = .ok rightId) :
    leftId = rightId ↔ SameAuthority mapping left right := by
  rw [← AuthorityId.value_injective.eq_iff, (AuthorityId.new_value _ _ _ leftAccepted).1,
    (AuthorityId.new_value _ _ _ rightAccepted).1]
  exact Iff.rfl

/-- An accepted grant is issued by the owner that was established for it exactly when the
document names one authority as issuer and as owner. It is issued by an authority that is
neither the origin nor this owner exactly when the document names a third authority as
issuer.

Proof: the last stage compares the established owner and origin with the document. Each authority
of the document is made from its own text, so two of them are the same exactly when their texts
name one authority. -/
theorem issued_by_owner_iff
    (accepted : verifyRawDocumentWithSources mapping rawDocument verifier sources context =
      .ok artifacts) :
    (artifacts.verifiedGrant.document.issuerAuthority =
        artifacts.verifiedGrant.metadata.ownership.activeOwningAuthority ↔
      SameAuthority mapping rawDocument.issuerAuthority rawDocument.activeOwningAuthority) ∧
    (artifacts.verifiedGrant.document.issuerAuthority ≠
          artifacts.verifiedGrant.metadata.ownership.originAuthority ∧
        artifacts.verifiedGrant.document.issuerAuthority ≠
          artifacts.verifiedGrant.metadata.ownership.activeOwningAuthority ↔
      ¬ SameAuthority mapping rawDocument.issuerAuthority rawDocument.originAuthority ∧
        ¬ SameAuthority mapping rawDocument.issuerAuthority rawDocument.activeOwningAuthority) := by
  obtain ⟨document, signerBinding, rawTransitions, transitions, ownership, revocation, validated,
    -, -, -, -, -, lastStage⟩ := verify_raw_document_with_sources_ok_iff.mp accepted
  obtain ⟨matched, -, -, -, rfl⟩ := (verify_impl_ok_iff _ _ _ _ _).mp lastStage
  have made := validated_from mapping rawDocument document validated
  have issuerIsOwner : document.issuerAuthority = ownership.activeOwningAuthority ↔
      SameAuthority mapping rawDocument.issuerAuthority rawDocument.activeOwningAuthority := by
    rw [matched.owner]
    exact same_authority_iff _ _ _ _ made.issuerAuthority made.activeOwningAuthority
  have issuerIsOrigin : document.issuerAuthority = ownership.originAuthority ↔
      SameAuthority mapping rawDocument.issuerAuthority rawDocument.originAuthority := by
    rw [matched.origin]
    exact same_authority_iff _ _ _ _ made.issuerAuthority made.originAuthority
  exact ⟨issuerIsOwner, and_congr (not_congr issuerIsOrigin) (not_congr issuerIsOwner)⟩

/-- When and how the small documents are verified. -/
def smallContext : VerificationContext := ⟨smallInstant, .online⟩

/-- A small document about resources of the authority did:i, issued by another authority. -/
def smallForeign : RawTrustGrantDocument :=
  { smallDocument ⟨true, none, none⟩ none none with issuerAuthority := "did:x" }

/-- The transferred document is accepted with the transfer, and its owner issued it. The
condition is read from the wire document: its issuer is spelled as its active owner. -/
theorem small_transferred_issued_by_owner :
    ∃ artifacts, verifyRawDocumentWithSources Text.asciiCaseMapping smallTransferred
        smallVerifier (smallSources [smallTransition]) smallContext = .ok artifacts ∧
      artifacts.verifiedGrant.document.issuerAuthority =
        artifacts.verifiedGrant.metadata.ownership.activeOwningAuthority := by
  have accepted := Results.value_of_eq (verifyRawDocumentWithSources Text.asciiCaseMapping
    smallTransferred smallVerifier (smallSources [smallTransition]) smallContext)
    (by decide +kernel)
  exact ⟨_, accepted, (issued_by_owner_iff accepted).1.mpr rfl⟩

/-- A document is accepted whose issuer is neither the origin nor the owner of its
resources. No step of the verification compares the issuer with the owner; the issuer only
has to have signed. -/
theorem foreign_issuer_accepted :
    ∃ artifacts, verifyRawDocumentWithSources Text.asciiCaseMapping smallForeign smallVerifier
        (smallSources []) smallContext = .ok artifacts ∧
      artifacts.verifiedGrant.document.issuerAuthority ≠
        artifacts.verifiedGrant.metadata.ownership.originAuthority ∧
      artifacts.verifiedGrant.document.issuerAuthority ≠
        artifacts.verifiedGrant.metadata.ownership.activeOwningAuthority := by
  refine ⟨_, Results.value_of_eq (verifyRawDocumentWithSources Text.asciiCaseMapping smallForeign
    smallVerifier (smallSources []) smallContext) (by decide +kernel), ?_⟩
  decide +kernel

end TrustGrant
