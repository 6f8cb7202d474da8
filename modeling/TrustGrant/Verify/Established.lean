import TrustGrant.Document.Invariants
import TrustGrant.Verify.Acceptance

/-!
# What verification establishes of a grant

An accepted grant keeps everything that validation and the consistency check established:
the invariants of its document, and the agreement of its metadata with it.

The invariants are the ones that the validators of documents were shown to establish. They
are what stored grants are read back by, so they have a module of their own.
-/

namespace TrustGrant

open Rust Library

/-- A lineage that can be written on the wire: a first revision supersedes nothing, and no
grant supersedes itself. -/
structure LineageInvariant (lineage : GrantLineage) : Prop where
  firstRevision : lineage.revision.get = 1 → lineage.supersedes = none
  notItself : lineage.supersedes ≠ some lineage.trustgrantId
  policy : lineage.supersessionPolicy ≠ .explicitRevocationRequired

/-- The authorities of a document are lower-cased. -/
structure AuthoritiesLowercased (mapping : Text.CaseMapping)
    (document : NormalizedTrustGrantDocument) : Prop where
  issuer : document.issuerAuthority.Lowercased mapping
  origin : document.ownershipAuthorityState.originAuthority.Lowercased mapping
  owner : document.ownershipAuthorityState.activeOwningAuthority.Lowercased mapping

/-- What validation establishes about a whole document: limits, distinctness and lower-cased
authorities in every part. -/
structure DocumentInvariant (mapping : Text.CaseMapping) (holds : ValidatedSelector → Prop)
    (document : NormalizedTrustGrantDocument) : Prop where
  lineage : LineageInvariant document.lineage
  authorities : AuthoritiesLowercased mapping document
  targetScope : ScopeInvariant holds document.targetScope
  audience : AudienceInvariant mapping holds document.defaultAudienceScope
  resources : ResourceScopeInvariant mapping holds document.resourceScope
  timeWindow : ∀ window ∈ document.globalTimeWindow, window.notBefore ≤ window.notAfter

/-- The metadata of a grant agrees with its document, and its revocation evidence suffices
for the posture. -/
structure MetadataInvariant (document : NormalizedTrustGrantDocument)
    (metadata : VerificationMetadata) : Prop where
  keyWindow : metadata.signerBinding.keyRecord.notBefore ≤ metadata.signerBinding.keyRecord.notAfter
  issuer : metadata.signerBinding.issuerAuthority = document.issuerAuthority
  keyId : metadata.signerBinding.keyRecord.keyId = document.keyId
  canonicalization : metadata.signerBinding.signatureProfile.canonicalization.value =
    CanonicalizationProfile.rfc8785.discoveryName
  active : metadata.signerBinding.keyRecord.isActiveAt metadata.verifiedAt = true
  principal : samePrincipal metadata.signerBinding.delegatedPrincipal document.issuerPrincipal =
    true
  origin : metadata.ownership.originAuthority = document.ownershipAuthorityState.originAuthority
  owner : metadata.ownership.activeOwningAuthority =
    document.ownershipAuthorityState.activeOwningAuthority
  checked : document.revocation.any ValidatedRevocation.revocable =
    metadata.revocation.checkedRecord.isSome
  acceptable : ∀ record ∈ metadata.revocation.checkedRecord, RevocationAcceptable metadata record

/-- What verification establishes of a grant. -/
structure GrantInvariant (mapping : Text.CaseMapping) (holds : ValidatedSelector → Prop)
    (grant : VerifiedTrustGrant) : Prop where
  document : DocumentInvariant mapping holds grant.document
  metadata : MetadataInvariant grant.document grant.metadata

/-- The lineage of a validated document. Its parts are read one by one, and whether they fit
together is checked after all of them were read. -/
theorem published_lineage (mapping : Text.CaseMapping) (raw : RawTrustGrantDocument)
    (document : ValidatedTrustGrantDocument)
    (accepted : ValidatedTrustGrantDocument.tryFrom mapping raw = .ok document) :
    LineageInvariant document.lineage := by
  have made := validated_from mapping raw document accepted
  obtain ⟨-, -, accepted⟩ := (Results.bind_ok_iff _ _ _).mp accepted
  obtain ⟨trustgrantId, namedId, accepted⟩ := (Results.bind_ok_iff _ _ _).mp accepted
  obtain ⟨_, -, accepted⟩ := (Results.bind_ok_iff _ _ _).mp accepted
  obtain ⟨revision, numbered, accepted⟩ := (Results.bind_ok_iff _ _ _).mp accepted
  obtain ⟨supersedes, superseded, accepted⟩ := (Results.bind_ok_iff _ _ _).mp accepted
  obtain ⟨_, firstChecked, accepted⟩ := (Results.bind_ok_iff _ _ _).mp accepted
  obtain ⟨_, selfChecked, -⟩ := (Results.bind_ok_iff _ _ _).mp accepted
  have sameId := Except.ok.inj (made.trustgrantId.symm.trans namedId)
  have sameRevision := Except.ok.inj (made.revision.symm.trans numbered)
  have sameSupersedes := Except.ok.inj (made.supersedes.symm.trans superseded)
  rw [Results.reject_if_ok_iff] at firstChecked selfChecked
  refine ⟨fun first => ?_, ?_, ?_⟩
  · rw [sameRevision] at first
    rw [sameSupersedes]
    cases supersedes with
    | none => rfl
    | some previous => exact absurd ⟨first, rfl⟩ firstChecked
  · rw [sameSupersedes, sameId]
    exact selfChecked
  · rw [← made.supersessionPolicy]
    cases raw.supersessionPolicy <;> simp [RawSupersessionPolicy.validated]

/-- A validated document. Its parts were shown to satisfy their invariants, and they are put
together here. -/
theorem published_document (mapping : Text.CaseMapping) (raw : RawTrustGrantDocument)
    (document : ValidatedTrustGrantDocument)
    (accepted : ValidatedTrustGrantDocument.tryFrom mapping raw = .ok document) :
    DocumentInvariant mapping PublishedSelector (.ofValidated document) := by
  have made := validated_from mapping raw document accepted
  exact {
    lineage := published_lineage mapping raw document accepted
    authorities := ⟨AuthorityId.lowercased_of_new _ _ _ made.issuerAuthority,
      AuthorityId.lowercased_of_new _ _ _ made.originAuthority,
      AuthorityId.lowercased_of_new _ _ _ made.activeOwningAuthority⟩
    targetScope := published_scope _ _ _ made.targetScope
    audience := published_audience _ _ _ made.defaultAudienceScope
    resources := published_resource_scope _ _ made.resourceScope
    timeWindow := fun window _ => window.ordered }

/-- A grant that one of the two verifications of the pipeline produced. -/
def Produced (mapping : Text.CaseMapping) (grant : VerifiedTrustGrant) : Prop :=
  ∃ rawDocument verifier artifacts,
    ((∃ metadata, verifyRawDocument mapping rawDocument verifier metadata = .ok artifacts) ∨
      ∃ sources context,
        verifyRawDocumentWithSources mapping rawDocument verifier sources context =
          .ok artifacts) ∧
    artifacts.verifiedGrant = grant

/-- Every produced grant comes from the last stage. Both ways of giving evidence end in it. -/
theorem last_stage_of_produced (mapping : Text.CaseMapping) (grant : VerifiedTrustGrant)
    (produced : Produced mapping grant) :
    ∃ rawDocument document verifier metadata artifacts,
      ValidatedTrustGrantDocument.tryFrom mapping rawDocument = .ok document ∧
      verifyImpl rawDocument document verifier metadata = .ok artifacts ∧
      artifacts.verifiedGrant = grant := by
  obtain ⟨rawDocument, verifier, artifacts, ⟨metadata, accepted⟩ | ⟨sources, context, accepted⟩,
    isGrant⟩ := produced
  · obtain ⟨document, validated, lastStage⟩ := (Results.bind_ok_iff _ _ _).mp accepted
    exact ⟨rawDocument, document, verifier, metadata, artifacts, validated, lastStage, isGrant⟩
  · obtain ⟨document, signerBinding, -, -, ownership, revocation, validated, -, -, -, -, -,
      lastStage⟩ := verify_raw_document_with_sources_ok_iff.mp accepted
    exact ⟨rawDocument, document, verifier, _, artifacts, validated, lastStage, isGrant⟩

/-- Agreement with a validated document is agreement with what is left of it in the grant. The
comparison of the consistency check is made with a rewritten document, whose compared fields are
those of the grant. -/
theorem metadata_invariant_of_matches (metadata : VerificationMetadata)
    (validated : ValidatedTrustGrantDocument) (document : NormalizedTrustGrantDocument)
    (matched : MetadataMatches metadata validated .rfc8785)
    (checked : requiresRevocationCheck validated = metadata.revocation.checkedRecord.isSome)
    (acceptable : ∀ record ∈ metadata.revocation.checkedRecord,
      RevocationAcceptable metadata record)
    (issuer : validated.issuerAuthority = document.issuerAuthority)
    (keyId : validated.keyId = document.keyId)
    (principal : validated.issuerPrincipal = document.issuerPrincipal)
    (ownership : validated.ownershipAuthorityState = document.ownershipAuthorityState)
    (revocable : requiresRevocationCheck validated =
      document.revocation.any ValidatedRevocation.revocable) :
    MetadataInvariant document metadata where
  keyWindow := metadata.signerBinding.keyRecord.ordered
  issuer := matched.issuer.trans issuer
  keyId := matched.keyId.trans keyId
  canonicalization := matched.canonicalization
  active := matched.active
  principal := principal ▸ matched.principal
  origin := ownership ▸ matched.origin
  owner := ownership ▸ matched.owner
  checked := revocable ▸ checked
  acceptable := acceptable

/-- What the pipeline establishes of the grants it produces. The document comes from validation,
the metadata from the consistency check. -/
theorem invariant_of_produced (mapping : Text.CaseMapping) (grant : VerifiedTrustGrant)
    (produced : Produced mapping grant) : GrantInvariant mapping PublishedSelector grant := by
  obtain ⟨rawDocument, document, verifier, metadata, artifacts, validated, lastStage, rfl⟩ :=
    last_stage_of_produced mapping grant produced
  obtain ⟨matched, checked, acceptable, -, rfl⟩ := (verify_impl_ok_iff _ _ _ _ _).mp lastStage
  exact ⟨published_document mapping rawDocument document validated,
    metadata_invariant_of_matches metadata document _ matched checked acceptable rfl rfl rfl rfl
      rfl⟩

end TrustGrant
