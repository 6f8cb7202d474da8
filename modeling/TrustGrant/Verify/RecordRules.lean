import TrustGrant.Verify.Record

/-!
# What reading a record accepts

Each part of a record is read as a value exactly when its fields are read as the fields of
this value. Audience entries are read one by one without comparing their authorities; only
the consistency check of the whole grant does this.
-/

namespace TrustGrant

open Rust Limits Library

/-- A stored selector is read part by part. Equal values are not dropped here, as validation
would. -/
theorem read_selector_ok_iff (record : SelectorRecord) (selector : ValidatedSelector) :
    record.tryToValidatedSelector = .ok selector ↔
      record.values.length ≤ maxSelectorValuesPerSelector ∧
        record.expressions.length ≤ maxSelectorExpressionsPerSelector ∧
        SelectorKind.new record.kind = .ok selector.kind ∧ selector.all = record.all ∧
        (record.values.mapM fun value =>
          normalizeNonEmptyString "selector.value" value (some maxSelectorValueBytes)) =
            .ok selector.values ∧
        record.expressions.mapM readSelectorExpression = .ok selector.expressions := by
  have unfolded : record.tryToValidatedSelector = (do
      ensureCollectionLimit "verified_record.selector_values" record.values.length
        maxSelectorValuesPerSelector
      ensureCollectionLimit "verified_record.selector_expressions" record.expressions.length
        maxSelectorExpressionsPerSelector
      let kind ← SelectorKind.new record.kind
      let values ← record.values.mapM fun value =>
        normalizeNonEmptyString "selector.value" value (some maxSelectorValueBytes)
      let expressions ← record.expressions.mapM readSelectorExpression
      ValidatedSelector.new kind record.all values expressions) := rfl
  simp only [unfolded, Results.bind_ok_iff, ensure_collection_limit_ok_iff, exists_const,
    selector_new_ok_iff]
  constructor
  · rintro ⟨valueCount, expressionCount, kind, named, values, normalized, expressions, parsed, rfl,
      isAll, rfl, rfl⟩
    exact ⟨valueCount, expressionCount, named, isAll, normalized, parsed⟩
  · rintro ⟨valueCount, expressionCount, named, isAll, normalized, parsed⟩
    exact ⟨valueCount, expressionCount, _, named, _, normalized, _, parsed, rfl, isAll, rfl, rfl⟩

/-- A stored list is read item by item into distinct selectors. The rule for loops that reject
what they have seen is that of the validator. -/
theorem read_selectors_ok_iff (records : List SelectorRecord)
    (selectors : List ValidatedSelector) :
    validateUniqueSelectors records = .ok selectors ↔
      List.Forall₂ (fun record selector => record.tryToValidatedSelector = .ok selector) records
          selectors ∧
        selectors.Pairwise fun earlier later => ¬ later.sameSelector earlier = true :=
  unique_selectors_ok_iff SelectorRecord.tryToValidatedSelector validateUniqueSelectorsFrom
    (fun _ => rfl) (fun _ _ _ => rfl) records selectors

/-- Selectors are read within their limit. -/
def SelectorsRead (records : List SelectorRecord) (selectors : List ValidatedSelector) : Prop :=
  records.length ≤ maxSelectorsPerScope ∧ validateUniqueSelectors records = .ok selectors

/-- A stored scope is read list by list. The limits on the lists are checked first, and the shape
last. -/
theorem read_scope_ok_iff (record : ScopeRecord) (scopeName : String) (scope : ValidatedScope) :
    record.tryToValidatedScope scopeName = .ok scope ↔
      scope.all = record.all ∧ SelectorsRead record.allow scope.allow ∧
        SelectorsRead record.deny scope.deny := by
  simp only [ScopeRecord.tryToValidatedScope, Results.bind_ok_iff, ensure_collection_limit_ok_iff,
    exists_const, scope_new_ok_iff]
  constructor
  · rintro ⟨allowCount, denyCount, allow, allowed, deny, denied, isAll, rfl, rfl⟩
    exact ⟨isAll, ⟨allowCount, allowed⟩, ⟨denyCount, denied⟩⟩
  · rintro ⟨isAll, ⟨allowCount, allowed⟩, ⟨denyCount, denied⟩⟩
    exact ⟨allowCount, denyCount, _, allowed, _, denied, isAll, rfl, rfl⟩

variable {mapping : Text.CaseMapping}

/-- An audience entry is read part by part. -/
structure AudienceEntryRead (mapping : Text.CaseMapping) (scopeName : String)
    (record : AudienceEntryRecord) (entry : ValidatedAudienceEntry) : Prop where
  authority : AuthorityId.new mapping record.authorityId = .ok entry.authorityId
  scope : record.scope.tryToValidatedScope scopeName = .ok entry.scope
  principalScope : (record.principalScope.mapM fun scope => scope.tryToValidatedScope scopeName) =
    .ok entry.principalScope

/-- Audience entries are read within their limit. -/
def AudienceRead (mapping : Text.CaseMapping) (scopeName : String)
    (records : List AudienceEntryRecord) (entries : List ValidatedAudienceEntry) : Prop :=
  records.length ≤ maxAudienceEntries ∧
    List.Forall₂ (AudienceEntryRead mapping scopeName) records entries

/-- A stored audience entry is read part by part. Its scopes are read under the name that errors
report. -/
theorem read_audience_entry_ok_iff (record : AudienceEntryRecord) (scopeName : String)
    (entry : ValidatedAudienceEntry) :
    record.tryToValidatedAudienceEntry mapping scopeName = .ok entry ↔
      AudienceEntryRead mapping scopeName record entry := by
  simp only [AudienceEntryRecord.tryToValidatedAudienceEntry, Results.bind_ok_iff,
    Results.pure_ok_iff]
  constructor
  · rintro ⟨authority, named, scope, ranged, principalScope, bounded, rfl⟩
    exact ⟨named, ranged, bounded⟩
  · rintro ⟨named, ranged, bounded⟩
    exact ⟨_, named, _, ranged, _, bounded, rfl⟩

/-- Operations are read within their limit. -/
def OperationsRead (records : List String) (names : List OperationName) : Prop :=
  records.length ≤ maxOperationsPerScope ∧ records.mapM OperationName.new = .ok names

/-- A stored scope of operations is read list by list. Its shape is checked last. -/
theorem read_operation_scope_ok_iff (record : OperationScopeRecord)
    (scope : ValidatedOperationScope) :
    record.tryToValidatedOperationScope = .ok scope ↔
      OperationsRead record.allow scope.allow ∧ OperationsRead record.deny scope.deny := by
  simp only [OperationScopeRecord.tryToValidatedOperationScope, Results.bind_ok_iff,
    ensure_collection_limit_ok_iff, exists_const, operation_scope_new_ok_iff]
  constructor
  · rintro ⟨allowCount, denyCount, allow, allowed, deny, denied, rfl, rfl⟩
    exact ⟨⟨allowCount, allowed⟩, ⟨denyCount, denied⟩⟩
  · rintro ⟨⟨allowCount, allowed⟩, ⟨denyCount, denied⟩⟩
    exact ⟨allowCount, denyCount, _, allowed, _, denied, rfl, rfl⟩

/-- A resource type is read part by part. Each field says of which stored field a part is
read. -/
structure ResourceTypeRead (mapping : Text.CaseMapping) (record : ResourceTypeRecord)
    (resourceType : ValidatedResourceType) : Prop where
  all : resourceType.all = record.all
  allow : SelectorsRead record.allow resourceType.allow
  deny : SelectorsRead record.deny resourceType.deny
  capabilities : resourceType.capabilities =
    ⟨record.capabilities.recognize, record.capabilities.mint⟩
  minting : resourceType.constraints.minting =
    ⟨record.constraints.minting.maxTotal, record.constraints.minting.maxPerUser⟩
  audience : AudienceRead mapping "resource_scope.audience_scope" record.constraints.audienceScope
    resourceType.constraints.audienceScope
  operations : record.operations.mapM OperationScopeRecord.tryToValidatedOperationScope =
    .ok resourceType.operations

/-- A stored type is read part by part. -/
theorem read_resource_type_ok_iff (record : ResourceTypeRecord)
    (resourceType : ValidatedResourceType) :
    record.tryToValidatedResourceType mapping = .ok resourceType ↔
      ResourceTypeRead mapping record resourceType := by
  simp only [ResourceTypeRecord.tryToValidatedResourceType, Results.bind_ok_iff,
    ensure_collection_limit_ok_iff, exists_const, resource_type_new_ok_iff,
    Results.map_list_ok_iff, read_audience_entry_ok_iff]
  constructor
  · rintro ⟨allowCount, denyCount, audienceCount, allow, allowed, deny, denied, audience, named,
      operations, listed, isAll, rfl, rfl, capabilities, constraints, rfl⟩
    exact ⟨isAll, ⟨allowCount, allowed⟩, ⟨denyCount, denied⟩, capabilities, by rw [constraints],
      by rw [constraints]; exact ⟨audienceCount, named⟩, listed⟩
  · intro read
    exact ⟨read.allow.1, read.deny.1, read.audience.1, _, read.allow.2, _, read.deny.2, _,
      read.audience.2, _, read.operations, read.all, rfl, rfl, read.capabilities,
      by rw [← read.minting], rfl⟩

/-- A document is read part by part. It is used in both directions: to know what was read, and to
show that a record is read. -/
structure DocumentRead (mapping : Text.CaseMapping) (record : NormalizedTrustGrantDocumentRecord)
    (document : NormalizedTrustGrantDocument) : Prop where
  trustgrantId : TrustGrantId.fromStr record.trustgrantId = .ok document.lineage.trustgrantId
  grantSeriesId : GrantSeriesId.fromStr record.grantSeriesId = .ok document.lineage.grantSeriesId
  revision : GrantRevision.new record.revision = .ok document.lineage.revision
  supersedes : record.supersedes.mapM TrustGrantId.fromStr = .ok document.lineage.supersedes
  firstRevision : ¬ (document.lineage.revision.get = 1 ∧
    document.lineage.supersedes.isSome = true)
  notItself : document.lineage.supersedes ≠ some document.lineage.trustgrantId
  supersessionPolicy : record.supersessionPolicy.tryToPolicy =
    .ok document.lineage.supersessionPolicy
  issuerAuthority : AuthorityId.new mapping record.issuerAuthority = .ok document.issuerAuthority
  originAuthority : AuthorityId.new mapping record.originAuthority =
    .ok document.ownershipAuthorityState.originAuthority
  activeOwningAuthority : AuthorityId.new mapping record.activeOwningAuthority =
    .ok document.ownershipAuthorityState.activeOwningAuthority
  keyId : KeyId.new record.keyId = .ok document.keyId
  targetScope : record.targetScope.tryToValidatedScope "target_scope" = .ok document.targetScope
  capabilities : document.capabilities = ⟨record.capabilities.recognize, record.capabilities.mint⟩
  audience : AudienceRead mapping "default_audience_scope" record.defaultAudienceScope
    document.defaultAudienceScope
  resourceCount : record.resourceScope.len ≤ maxResourceTypes
  resources : ∃ types, List.Forall₂ (fun input output =>
      ResourceTypeName.new input.1 = .ok output.1 ∧ ResourceTypeRead mapping input.2 output.2)
    record.resourceScope.entries types ∧ .ofEntries types = document.resourceScope
  globalTimeWindow : record.globalTimeWindow.mapM TimeWindowRecord.tryToValidatedTimeWindow =
    .ok document.globalTimeWindow
  revocation : document.revocation =
    record.revocation.map RevocationPolicyRecord.tryToValidatedRevocation
  issuedAt : document.issuedAt = record.issuedAt
  issuerPrincipal : record.issuerPrincipal.mapM PrincipalRecord.tryToValidatedPrincipal =
    .ok document.issuerPrincipal
  interoperabilityProfile : document.interoperabilityProfile = record.interoperabilityProfile

/-- A stored document is read exactly when each of its parts is. The order of the checks decides
about the error only. -/
theorem read_document_ok_iff (record : NormalizedTrustGrantDocumentRecord)
    (document : NormalizedTrustGrantDocument) :
    record.tryToNormalizedDocument mapping = .ok document ↔
      DocumentRead mapping record document := by
  have typeRead : ∀ (input : String × ResourceTypeRecord)
      (output : ResourceTypeName × ValidatedResourceType),
      (∃ name, ResourceTypeName.new input.1 = .ok name ∧ ∃ resourceType,
          input.2.tryToValidatedResourceType mapping = .ok resourceType ∧
          (name, resourceType) = output) ↔
        ResourceTypeName.new input.1 = .ok output.1 ∧
          ResourceTypeRead mapping input.2 output.2 := by
    intro input output
    simp only [read_resource_type_ok_iff]
    constructor
    · rintro ⟨name, named, resourceType, read, rfl⟩
      exact ⟨named, read⟩
    · rintro ⟨named, read⟩
      exact ⟨_, named, _, read, rfl⟩
  simp only [NormalizedTrustGrantDocumentRecord.tryToNormalizedDocument, Results.bind_ok_iff,
    ensure_collection_limit_ok_iff, exists_const, Results.reject_if_ok_iff, Results.pure_ok_iff,
    Results.map_list_ok_iff, read_audience_entry_ok_iff, typeRead]
  constructor
  · rintro ⟨audienceCount, resourceCount, trustgrantId, isId, seriesId, isSeries, revision,
      isRevision, supersedes, isSuperseded, firstRevision, notItself, policy, isPolicy, issuer,
      isIssuer, origin, isOrigin, owner, isOwner, keyId, isKey, targetScope, ranged, audience,
      named, types, typed, window, windowed, principal, isPrincipal, rfl⟩
    exact {
      trustgrantId := isId, grantSeriesId := isSeries, revision := isRevision
      supersedes := isSuperseded, firstRevision, notItself, supersessionPolicy := isPolicy
      issuerAuthority := isIssuer, originAuthority := isOrigin, activeOwningAuthority := isOwner
      keyId := isKey, targetScope := ranged, capabilities := rfl
      audience := ⟨audienceCount, named⟩, resourceCount, resources := ⟨types, typed, rfl⟩
      globalTimeWindow := windowed, revocation := rfl, issuedAt := rfl
      issuerPrincipal := isPrincipal, interoperabilityProfile := rfl }
  · intro read
    obtain ⟨types, typed, collected⟩ := read.resources
    exact ⟨read.audience.1, read.resourceCount, _, read.trustgrantId, _, read.grantSeriesId, _,
      read.revision, _, read.supersedes, read.firstRevision, read.notItself, _,
      read.supersessionPolicy, _, read.issuerAuthority, _, read.originAuthority, _,
      read.activeOwningAuthority, _, read.keyId, _, read.targetScope, _, read.audience.2, types,
      typed, _, read.globalTimeWindow, _, read.issuerPrincipal, by
        rw [collected, ← read.capabilities, ← read.revocation, ← read.issuedAt,
          ← read.interoperabilityProfile]⟩

end TrustGrant
