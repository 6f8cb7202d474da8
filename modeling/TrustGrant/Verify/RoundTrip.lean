import TrustGrant.Evaluate.Engine
import TrustGrant.Verify.RecordRules

/-!
# A stored grant is read back

The two halves of storage meet at what verification establishes: every part of a document
that satisfies the invariants of published documents is read back as itself, and the
metadata that agrees with the document is read back with it.

The writer of records is total and the readers are partial, so the result is that the
readers succeed. Each part has its lemma, and they are put together with the inversion of
the readers read the other way.
-/

namespace TrustGrant

open Rust Limits Library

/-- A selector that is stored is read back: its expressions are parsed from the texts that they
print. -/
theorem read_written_selector (selector : ValidatedSelector)
    (published : PublishedSelector selector) :
    (SelectorRecord.ofValidated selector).tryToValidatedSelector = .ok selector := by
  have invariant := published.1
  rw [read_selector_ok_iff]
  refine ⟨invariant.valueCount, ?_, selector.kind.new_of_as_str, rfl,
    normalize_normals _ _ _ invariant.values, ?_⟩
  · rw [SelectorRecord.ofValidated, List.length_map]
    exact invariant.expressionCount
  · exact Results.map_list_inverse _ _ _ fun expression member =>
      read_printed expression (invariant.expressions expression member)

/-- A list of selectors is read back; distinct selectors stay distinct. -/
theorem read_written_selectors (selectors : List ValidatedSelector)
    (published : SelectorsInvariant PublishedSelector selectors) :
    SelectorsRead (selectors.map .ofValidated) selectors := by
  rw [SelectorsRead, List.length_map, read_selectors_ok_iff, List.forall₂_map_left_iff,
    List.forall₂_same]
  exact ⟨published.count, fun selector member =>
    read_written_selector selector (published.each selector member), published.distinct⟩

/-- A scope is read back with its shape. -/
theorem read_written_scope (scopeName : String) (scope : ValidatedScope)
    (published : ScopeInvariant PublishedSelector scope) :
    (ScopeRecord.ofValidated scope).tryToValidatedScope scopeName = .ok scope := by
  rw [read_scope_ok_iff]
  exact ⟨rfl, read_written_selectors _ published.allow, read_written_selectors _ published.deny⟩

variable {mapping : Text.CaseMapping}

/-- An audience is read back: a lower-cased authority is read as itself. Its scopes are read back
by the lemmas above. -/
theorem read_written_audience (scopeName : String) (entries : List ValidatedAudienceEntry)
    (published : AudienceInvariant mapping PublishedSelector entries) :
    AudienceRead mapping scopeName (entries.map .ofValidated) entries := by
  rw [AudienceRead, List.length_map, List.forall₂_map_left_iff, List.forall₂_same]
  refine ⟨published.count, fun entry member => ?_⟩
  have invariant := published.each entry member
  exact ⟨AuthorityId.new_of_value mapping _ invariant.authority,
    read_written_scope scopeName _ invariant.scope,
    Results.map_option_inverse _ _ _ fun scope present =>
      read_written_scope scopeName scope (invariant.principalScope scope present)⟩

/-- A scope of operations is read back. Names that were accepted once are accepted again
unchanged. -/
theorem read_written_operations (scope : ValidatedOperationScope)
    (published : OperationsInvariant scope) :
    (OperationScopeRecord.ofValidated scope).tryToValidatedOperationScope = .ok scope := by
  have named : ∀ names : List OperationName, names.length ≤ maxOperationsPerScope →
      OperationsRead (names.map Token.value) names := by
    intro names short
    rw [OperationsRead, List.length_map]
    exact ⟨short, Results.map_list_inverse _ _ _ fun name _ => name.new_of_value⟩
  rw [read_operation_scope_ok_iff]
  exact ⟨named _ published.allowCount, named _ published.denyCount⟩

/-- A resource type is read back, part by part. Each field is one of the lemmas above. -/
theorem read_written_resource_type (resourceType : ValidatedResourceType)
    (published : ResourceTypeInvariant mapping PublishedSelector resourceType) :
    ResourceTypeRead mapping (.ofValidated resourceType) resourceType where
  all := rfl
  allow := read_written_selectors _ published.allow
  deny := read_written_selectors _ published.deny
  capabilities := rfl
  minting := rfl
  audience := read_written_audience _ _ published.audience
  operations := Results.map_option_inverse _ _ _ fun scope present =>
    read_written_operations scope (published.operations scope present)

/-- A policy that a wire document can have is read back. The third one is stored under its name
and refused. -/
theorem read_written_policy (policy : SupersessionPolicy)
    (published : policy ≠ .explicitRevocationRequired) :
    (SupersessionPolicyRecord.ofPolicy policy).tryToPolicy = .ok policy := by
  cases policy with
  | coexist => rfl
  | supersedePrevious => rfl
  | explicitRevocationRequired => exact absurd rfl published

/-- A published document is read back. Each part has a lemma of its own; the type map is a
permutation of what was written, as the stored map is ordered by other keys. -/
theorem read_written_document (document : NormalizedTrustGrantDocument)
    (published : DocumentInvariant mapping PublishedSelector document) :
    (NormalizedTrustGrantDocumentRecord.ofDocument document).tryToNormalizedDocument mapping =
      .ok document := by
  have types : ∀ entry ∈ document.resourceScope.entries,
      ResourceTypeName.new entry.1.value = .ok entry.1 ∧
        ResourceTypeRead mapping (.ofValidated entry.2) entry.2 := fun entry member =>
    ⟨entry.1.new_of_value,
      read_written_resource_type entry.2 (published.resources.each entry member)⟩
  have resourceCount : (NormalizedTrustGrantDocumentRecord.ofDocument document).resourceScope.len ≤
      maxResourceTypes := by
    have collected := document.resourceScope.of_renamed_perm Token.value_injective
      ResourceTypeRecord.ofValidated
    rw [SortedMap.len, NormalizedTrustGrantDocumentRecord.ofDocument, collected.length_eq,
      List.length_map]
    exact published.resources.count
  rw [read_document_ok_iff]
  exact {
    trustgrantId := PrefixedUuid.from_str_to_string (by decide) _
    grantSeriesId := PrefixedUuid.from_str_to_string (by decide) _
    revision := GrantRevision.new_of_get _
    supersedes := Results.map_option_inverse _ _ _ fun id _ =>
      PrefixedUuid.from_str_to_string (by decide) id
    firstRevision := by
      rintro ⟨first, superseded⟩
      rw [published.lineage.firstRevision first] at superseded
      cases superseded
    notItself := published.lineage.notItself
    supersessionPolicy := read_written_policy _ published.lineage.policy
    issuerAuthority := AuthorityId.new_of_value mapping _ published.authorities.issuer
    originAuthority := AuthorityId.new_of_value mapping _ published.authorities.origin
    activeOwningAuthority := AuthorityId.new_of_value mapping _ published.authorities.owner
    keyId := Token.new_of_value _
    targetScope := read_written_scope _ _ published.targetScope
    capabilities := rfl
    audience := read_written_audience _ _ published.audience
    resourceCount
    resources := document.resourceScope.of_renamed_back Token.value_injective _ types
    globalTimeWindow := Results.map_option_inverse _ _ _ fun window _ =>
      (time_window_new_ok_iff _ _ _).mpr ⟨rfl, rfl⟩
    revocation := by
      cases present : document.revocation <;>
        simp [NormalizedTrustGrantDocumentRecord.ofDocument, present,
          RevocationPolicyRecord.ofValidated, RevocationPolicyRecord.tryToValidatedRevocation]
    issuedAt := rfl
    issuerPrincipal := Results.map_option_inverse _ _ _ fun principal _ =>
      validate_raw_principal principal
    interoperabilityProfile := rfl }

/-- A signer binding is read back. -/
theorem read_written_binding (binding : ResolvedSignerBinding)
    (lowercased : binding.issuerAuthority.Lowercased mapping) :
    (ResolvedSignerBindingRecord.ofBinding binding).tryIntoBinding mapping = .ok binding := by
  simp only [ResolvedSignerBindingRecord.tryIntoBinding, Results.bind_ok_iff, Results.pure_ok_iff]
  exact ⟨_, AuthorityId.new_of_value mapping _ lowercased, _, binding.keyRecord.new_of_values, _,
    binding.signatureProfile.new_of_values, _, Results.map_option_inverse _ _ _
      fun principal _ => principal.new_of_values, rfl⟩

/-- An ownership record is read back with the end of its chain, whose text is an identifier. Both
authorities are lower-cased. -/
theorem read_written_ownership (ownership : OwnershipVerificationRecord)
    (origin : ownership.originAuthority.Lowercased mapping)
    (owner : ownership.activeOwningAuthority.Lowercased mapping) :
    (OwnershipVerificationRecordRecord.ofOwnership ownership).tryIntoOwnership mapping =
      .ok ownership := by
  have tip : (ownership.transitionChainTip.map PrefixedUuid.toString).mapM TransitionId.fromStr =
      .ok ownership.transitionChainTip :=
    Results.map_option_inverse _ _ _ fun id _ => PrefixedUuid.from_str_to_string (by decide) id
  simp only [OwnershipVerificationRecordRecord.tryIntoOwnership, Results.bind_ok_iff,
    Results.pure_ok_iff]
  refine ⟨_, AuthorityId.new_of_value mapping _ origin, _, AuthorityId.new_of_value mapping _ owner,
    _, ?_, rfl⟩
  rw [OwnershipVerificationRecordRecord.ofOwnership, tip]
  rfl

/-- The metadata of an established grant is read back. Its authorities agree with those of the
document, which are lower-cased. -/
theorem read_written_metadata (grant : VerifiedTrustGrant)
    (established : GrantInvariant mapping PublishedSelector grant) :
    (VerificationMetadataRecord.ofMetadata grant.metadata).tryIntoMetadata mapping =
      .ok grant.metadata := by
  obtain ⟨document, metadata⟩ := established
  have issuer : grant.metadata.signerBinding.issuerAuthority.Lowercased mapping :=
    metadata.issuer ▸ document.authorities.issuer
  have origin : grant.metadata.ownership.originAuthority.Lowercased mapping :=
    metadata.origin ▸ document.authorities.origin
  have owner : grant.metadata.ownership.activeOwningAuthority.Lowercased mapping :=
    metadata.owner ▸ document.authorities.owner
  simp only [VerificationMetadataRecord.tryIntoMetadata, Results.bind_ok_iff, Results.pure_ok_iff]
  exact ⟨_, read_written_binding _ issuer, _, read_written_ownership _ origin owner, rfl⟩

/-- An established grant is read back. -/
theorem read_written_grant (grant : VerifiedTrustGrant)
    (established : GrantInvariant mapping PublishedSelector grant) :
    (VerifiedTrustGrantRecord.ofGrant grant).tryToVerifiedGrant mapping = .ok grant := by
  simp only [VerifiedTrustGrantRecord.tryToVerifiedGrant, Results.bind_ok_iff, Results.pure_ok_iff,
    Results.reject_if_ok_iff, exists_const]
  exact ⟨not_not.mpr rfl, _, read_written_document _ established.document, _,
    read_written_metadata grant established, (), consistent_of_invariant grant established, rfl⟩

/-- Every grant that the pipeline produces is read back from its record, by either reader, and
what is read back is evaluated like the grant. A produced grant satisfies the invariants of its
parts, under which every check of the readers passes and returns the part it was given. -/
theorem stored_grant_restored (grant : VerifiedTrustGrant) (produced : Produced mapping grant) :
    (VerifiedTrustGrantRecord.ofGrant grant).tryToVerifiedGrant mapping = .ok grant ∧
      (VerifiedTrustGrantRecord.ofGrant grant).tryIntoVerifiedGrant mapping = .ok grant ∧
      ∀ restored, (VerifiedTrustGrantRecord.ofGrant grant).tryToVerifiedGrant mapping =
          .ok restored →
        ∀ request, evaluate restored request = evaluate grant request := by
  have readBack := read_written_grant grant (invariant_of_produced mapping grant produced)
  refine ⟨readBack, readBack, fun restored read request => ?_⟩
  rw [Except.ok.inj (read.symm.trans readBack)]

/-- The grant of the transferred document is read back. It was accepted with a chain, so the
record carries a tip of the chain besides the static parts. -/
theorem small_stored_restored :
    ∃ artifacts, verifyRawDocumentWithSources Text.asciiCaseMapping smallTransferred
        smallVerifier (smallSources [smallTransition]) smallContext = .ok artifacts ∧
      (VerifiedTrustGrantRecord.ofGrant artifacts.verifiedGrant).tryToVerifiedGrant
        Text.asciiCaseMapping = .ok artifacts.verifiedGrant := by
  have accepted := Results.value_of_eq (verifyRawDocumentWithSources Text.asciiCaseMapping
    smallTransferred smallVerifier (smallSources [smallTransition]) smallContext)
    (by decide +kernel)
  exact ⟨_, accepted, (stored_grant_restored _
    ⟨smallTransferred, smallVerifier, _, .inr ⟨_, _, accepted⟩, rfl⟩).1⟩

end TrustGrant
