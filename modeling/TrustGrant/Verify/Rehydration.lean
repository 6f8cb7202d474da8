import TrustGrant.Domain.IdentifierText
import TrustGrant.Domain.Utf16Order
import TrustGrant.Verify.Established

/-!
# Validating a normalized document again

A grant that is read back from storage is checked by writing its document as a wire
document and validating that. A document that validation produced is restored by this, up
to its signature and the effect of its revocation, which the wire document does not carry.

Restoration is computed part by part, and what is lost is exactly the effect. A document is
therefore judged as it was published when its policy has the effect that the constructor of
wire policies sets.
-/

namespace TrustGrant

open Rust Limits Library

/-- `(!values.is_empty()).then(..)`: a list, or nothing when it is empty. -/
def unlessEmpty {α : Type} (values : List α) : Option (List α) :=
  if values.isEmpty then none else some values

/-- A list that is absent when it is empty is read as itself. -/
@[simp] theorem unless_empty_get {α : Type} (values : List α) :
    (unlessEmpty values).getD [] = values := by
  cases values <;> rfl

/-- A selector as a wire document says it: absent lists where there is nothing, expressions by
their text. -/
def rawSelector (selector : ValidatedSelector) : RawSelector where
  kind := selector.kind.asStr
  all := selector.all
  values := unlessEmpty selector.values
  expressions := unlessEmpty (selector.expressions.map SelectorExpression.toString)

/-- A scope as a wire document says it. -/
def rawScope (scope : ValidatedScope) : RawScope where
  all := scope.all
  allow := unlessEmpty (scope.allow.map rawSelector)
  deny := unlessEmpty (scope.deny.map rawSelector)

/-- An audience entry as a wire document says it. -/
def rawAudienceEntry (entry : ValidatedAudienceEntry) : RawAudienceEntry where
  authorityId := entry.authorityId.value
  scope := rawScope entry.scope
  principalScope := entry.principalScope.map rawScope

/-- A scope of operations as a wire document says it. -/
def rawOperationScope (operations : ValidatedOperationScope) : RawOperationScope where
  allow := unlessEmpty (operations.allow.map Token.value)
  deny := unlessEmpty (operations.deny.map Token.value)

/-- A resource type as a wire document says it. -/
def rawResourceType (resourceType : ValidatedResourceType) : RawResourceType where
  all := resourceType.all
  allow := unlessEmpty (resourceType.allow.map rawSelector)
  deny := unlessEmpty (resourceType.deny.map rawSelector)
  capabilities := ⟨resourceType.capabilities.recognize, resourceType.capabilities.mint⟩
  constraints := {
    minting := ⟨resourceType.constraints.minting.maxTotal,
      resourceType.constraints.minting.maxPerUser⟩
    audienceScope := unlessEmpty (resourceType.constraints.audienceScope.map rawAudienceEntry) }
  operations := resourceType.operations.map rawOperationScope

/-- The types as a wire document says them, under the names that validation normalized. -/
def rawResourceScope (types : SortedMap ResourceTypeName ValidatedResourceType) :
    RawResourceScope where
  types := .ofEntries (types.entries.map fun entry => (⟨entry.1.value⟩, rawResourceType entry.2))

/-- A principal as a wire document says it. -/
def rawPrincipal (principal : ValidatedPrincipal) : RawPrincipal :=
  ⟨principal.kind.value, principal.id.value⟩

/-- `RawRevocation::new`: the effect is the default one. -/
def RawRevocation.new (revocable : Bool) (revocationEndpoint : String) : RawRevocation :=
  ⟨revocable, revocationEndpoint, .blockAll⟩

/-- A revocation policy as a wire document says it, without its effect: `RawRevocation::new` sets
the default one. -/
def rawRevocation (revocation : ValidatedRevocation) : RawRevocation :=
  .new revocation.revocable revocation.revocationEndpoint

/-- A window as the constraints of a wire document. -/
def rawGlobalConstraints (window : ValidatedTimeWindow) : RawGlobalConstraints :=
  ⟨some ⟨window.notBefore, window.notAfter⟩⟩

/-- The policy as it is named on the wire. -/
def rawSupersessionPolicy : SupersessionPolicy → Except TrustGrantError RawSupersessionPolicy
  | .coexist => .ok .coexist
  | .supersedePrevious => .ok .supersedePrevious
  | .explicitRevocationRequired => .error .unsupportedV0WireSupersessionPolicy

/-- The wire document that a consistency check validates. It has a placeholder for the signature,
which the normalized document does not carry. -/
def NormalizedTrustGrantDocument.intoRawDocumentForConsistencyCheck
    (document : NormalizedTrustGrantDocument) : Except TrustGrantError RawTrustGrantDocument := do
  let supersessionPolicy ← rawSupersessionPolicy document.lineage.supersessionPolicy
  return {
    trustgrantId := document.lineage.trustgrantId.toString
    version := 0
    grantSeriesId := document.lineage.grantSeriesId.toString
    revision := document.lineage.revision.get
    supersedes := document.lineage.supersedes.map PrefixedUuid.toString
    supersessionPolicy
    issuerAuthority := document.issuerAuthority.value
    originAuthority := document.ownershipAuthorityState.originAuthority.value
    activeOwningAuthority := document.ownershipAuthorityState.activeOwningAuthority.value
    keyId := document.keyId.value
    targetScope := rawScope document.targetScope
    capabilities := ⟨document.capabilities.recognize, document.capabilities.mint⟩
    defaultAudienceScope := unlessEmpty (document.defaultAudienceScope.map rawAudienceEntry)
    resourceScope := rawResourceScope document.resourceScope
    globalConstraints := document.globalTimeWindow.map rawGlobalConstraints
    revocation := document.revocation.map rawRevocation
    issuedAt := document.issuedAt
    -- validation asks for a signature, which no normalized document has
    signature := "rehydrated-signature"
    issuerPrincipal := document.issuerPrincipal.map rawPrincipal
    interoperabilityProfile := document.interoperabilityProfile }

/-- There is one profile, whatever the posture was. -/
def canonicalProfileForRehydrate (_ : VerificationPosture) : CanonicalizationProfile := .rfc8785

/-- The document of a stored grant is written as a wire document and validated again. The
metadata are then compared with what validation made of it, and the revocation state is
judged. -/
def ensureVerifiedGrantConsistent (mapping : Text.CaseMapping) (grant : VerifiedTrustGrant)
    (canonicalProfile : CanonicalizationProfile) : Except TrustGrantError Unit := do
  let rawDocument ← grant.document.intoRawDocumentForConsistencyCheck
  let validatedDocument ← ValidatedTrustGrantDocument.tryFrom mapping rawDocument
  ensureMetadataMatchesDocument grant.metadata validatedDocument canonicalProfile
  ensureRevocationStateMatchesDocument grant.metadata validatedDocument
  ensureRevocationStateIsAcceptable grant.metadata

/-! ## A document that validation produced is restored -/

/-- A selector that validation made is what validation makes of it again. Its values are trimmed
and distinct already, and its expressions are parsed back from their texts. -/
theorem validate_raw_selector (selector : ValidatedSelector)
    (published : PublishedSelector selector) :
    validateSelector (rawSelector selector) = .ok selector := by
  obtain ⟨invariant, distinct⟩ := published
  rw [validate_selector_ok_iff]
  refine ⟨selector.kind.new_of_as_str, rfl, ?_, ?_⟩
  · rw [normalize_non_empty_strings_ok_iff]
    simp only [rawSelector, unless_empty_get]
    exact ⟨invariant.valueCount, _, normalize_normals _ _ _ invariant.values,
      Deduplication.erase_dups_of_nodup _ distinct⟩
  · rw [validate_selector_expressions_ok_iff]
    simp only [rawSelector, unless_empty_get, List.length_map]
    exact ⟨invariant.expressionCount, Results.map_list_inverse _ _ _
      fun expression member => read_printed expression (invariant.expressions expression member)⟩

/-- A list of distinct selectors is made again, in its order. -/
theorem validate_raw_selectors (selectors : List ValidatedSelector)
    (published : SelectorsInvariant PublishedSelector selectors) :
    validateSelectors (unlessEmpty (selectors.map rawSelector)) = .ok selectors := by
  rw [validate_selectors_ok_iff, unless_empty_get, List.length_map, List.forall₂_map_left_iff,
    List.forall₂_same]
  exact ⟨published.count, fun selector member =>
    validate_raw_selector selector (published.each selector member), published.distinct⟩

/-- A scope is made again, with the shape it had. -/
theorem validate_raw_scope (scopeName : String) (scope : ValidatedScope)
    (published : ScopeInvariant PublishedSelector scope) :
    validateScope scopeName (rawScope scope) = .ok scope := by
  rw [validate_scope_ok_iff]
  exact ⟨rfl, validate_raw_selectors _ published.allow, validate_raw_selectors _ published.deny⟩

variable {mapping : Text.CaseMapping}

/-- An audience of distinct authorities is made again. A lower-cased authority is accepted as
itself. -/
theorem validate_raw_audience (scopeName : String) (entries : List ValidatedAudienceEntry)
    (published : AudienceInvariant mapping PublishedSelector entries) :
    validateAudienceEntries mapping scopeName (unlessEmpty (entries.map rawAudienceEntry)) =
      .ok entries := by
  rw [validate_audience_entries_ok_iff, unless_empty_get, List.length_map,
    List.forall₂_map_left_iff, List.forall₂_same]
  refine ⟨published.count, fun entry member => ?_, published.distinct⟩
  have invariant := published.each entry member
  exact ⟨AuthorityId.new_of_value mapping _ invariant.authority,
    validate_raw_scope scopeName _ invariant.scope,
    Results.map_option_inverse _ _ _ fun scope present =>
      validate_raw_scope scopeName scope (invariant.principalScope scope present)⟩

/-- A scope of operations is made again. Names that were accepted once are accepted again
unchanged. -/
theorem validate_raw_operations (scope : ValidatedOperationScope)
    (published : OperationsInvariant scope) :
    validateOperationScope (rawOperationScope scope) = .ok scope := by
  have named : ∀ names : List OperationName, names.length ≤ maxOperationsPerScope →
      normalizeNonEmptyOperationNames (unlessEmpty (names.map Token.value)) = .ok names := by
    intro names short
    rw [normalize_operation_names_ok_iff, unless_empty_get, List.length_map]
    exact ⟨short, Results.map_list_inverse _ _ _ fun name _ => name.new_of_value⟩
  rw [validate_operation_scope_ok_iff]
  exact ⟨named _ published.allowCount, named _ published.denyCount⟩

/-- A resource type is made again, part by part. Each field is one of the lemmas above. -/
theorem validate_raw_resource_type (resourceType : ValidatedResourceType)
    (published : ResourceTypeInvariant mapping PublishedSelector resourceType) :
    ResourceTypeFrom mapping (rawResourceType resourceType) resourceType where
  all := rfl
  allow := validate_raw_selectors _ published.allow
  deny := validate_raw_selectors _ published.deny
  capabilities := rfl
  minting := rfl
  audience := validate_raw_audience _ _ published.audience
  operations := Results.map_option_inverse _ _ _ fun scope present =>
    validate_raw_operations scope (published.operations scope present)

/-- The wire names of distinct types are distinct keys. -/
theorem wire_key_injective :
    Function.Injective fun name : ResourceTypeName => (⟨name.value⟩ : Utf16Key) :=
  fun _ _ same => Token.value_injective (congrArg Utf16Key.asStr same)

/-- The types are made again: their names are normalized, so each is its own name. The wire map
is ordered by other keys, so the entries come in another order and are collected again. -/
theorem validate_raw_resource_scope (types : SortedMap ResourceTypeName ValidatedResourceType)
    (published : ResourceScopeInvariant mapping PublishedSelector types) :
    validateResourceScope mapping (rawResourceScope types) = .ok types := by
  rw [validate_resource_scope_ok_iff]
  refine ⟨?_, types.of_renamed_back wire_key_injective rawResourceType fun entry member => ?_⟩
  · have collected := types.of_renamed_perm wire_key_injective rawResourceType
    rw [SortedMap.len, rawResourceScope, collected.length_eq, List.length_map]
    exact published.count
  · exact ⟨entry.1.new_of_value, validate_raw_resource_type entry.2 (published.each entry member)⟩

/-- A document is validated when each of its parts is and its lineage can be published. It is the
converse of the inversion of the validator, for documents that were put together by hand. -/
theorem try_from_of_parts (raw : RawTrustGrantDocument) (document : ValidatedTrustGrantDocument)
    (version : raw.version = 0) (made : ValidatedFrom mapping raw document)
    (lineage : LineageInvariant document.lineage)
    (signed : normalizeNonEmptyString "signature" raw.signature none = .ok document.signature) :
    ValidatedTrustGrantDocument.tryFrom mapping raw = .ok document := by
  have passes {condition : Prop} [Decidable condition] {problem : TrustGrantError}
      (absent : ¬ condition) : Results.rejectIf condition problem = .ok () :=
    (Results.reject_if_ok_iff _ _ _).mpr absent
  have notSuperseded : ¬ (document.lineage.revision.get = 1 ∧
      document.lineage.supersedes.isSome = true) := by
    rintro ⟨first, superseded⟩
    rw [lineage.firstRevision first] at superseded
    cases superseded
  simp only [ValidatedTrustGrantDocument.tryFrom, Results.bind_ok_iff, Results.pure_ok_iff]
  refine ⟨(), passes (not_not.mpr version), _, made.trustgrantId, _, made.grantSeriesId, _,
    made.revision, _, made.supersedes, (), passes notSuperseded, (), passes lineage.notItself, _,
    made.issuerAuthority, _, made.originAuthority, _, made.activeOwningAuthority, _, made.keyId, _,
    signed, _, made.targetScope, _, made.defaultAudienceScope, _, made.resourceScope, _,
    made.globalTimeWindow, _, made.issuerPrincipal, ?_⟩
  rw [made.supersessionPolicy, made.capabilities, made.revocation, made.issuedAt,
    made.interoperabilityProfile]

/-- The document that is validated again: the same but for a signature and the effect of its
revocation. -/
def NormalizedTrustGrantDocument.restored (document : NormalizedTrustGrantDocument) :
    ValidatedTrustGrantDocument where
  lineage := document.lineage
  issuerAuthority := document.issuerAuthority
  ownershipAuthorityState := document.ownershipAuthorityState
  keyId := document.keyId
  targetScope := document.targetScope
  capabilities := document.capabilities
  defaultAudienceScope := document.defaultAudienceScope
  resourceScope := document.resourceScope
  globalTimeWindow := document.globalTimeWindow
  revocation := document.revocation.map fun revocation =>
    { revocation with postRevocationEffect := .blockAll }
  issuedAt := document.issuedAt
  signature := "rehydrated-signature"
  issuerPrincipal := document.issuerPrincipal
  interoperabilityProfile := document.interoperabilityProfile

/-- A policy of a published lineage is written and read back. -/
theorem raw_policy_validated (policy : SupersessionPolicy)
    (published : policy ≠ .explicitRevocationRequired) :
    ∃ raw, rawSupersessionPolicy policy = .ok raw ∧ raw.validated = policy := by
  cases policy with
  | coexist => exact ⟨.coexist, rfl, rfl⟩
  | supersedePrevious => exact ⟨.supersedePrevious, rfl, rfl⟩
  | explicitRevocationRequired => exact absurd rfl published

/-- A window whose ends are in order is made again. That they are is a field of the type. -/
theorem validate_raw_time_window (window : Option ValidatedTimeWindow) :
    validateGlobalConstraints (window.map rawGlobalConstraints) = .ok window := by
  cases window with
  | none => rfl
  | some window =>
    have rebuilt : ValidatedTimeWindow.new window.notBefore window.notAfter = .ok window :=
      (time_window_new_ok_iff _ _ _).mpr ⟨rfl, rfl⟩
    show (some <$> ValidatedTimeWindow.new window.notBefore window.notAfter) = _
    rw [rebuilt]
    rfl

/-- A principal is made again from its two tokens. -/
theorem validate_raw_principal (principal : ValidatedPrincipal) :
    ValidatedPrincipal.tryFrom (rawPrincipal principal) = .ok principal :=
  (Results.bind_ok_iff _ _ _).mpr ⟨_, principal.kind.new_of_value,
    (Results.bind_ok_iff _ _ _).mpr ⟨_, principal.id.new_of_value, rfl⟩⟩

/-- A published document is restored. Each part is written and validated back on its own, and the
revocation policy comes back with the default effect. -/
theorem validate_raw_document (document : NormalizedTrustGrantDocument)
    (published : DocumentInvariant mapping PublishedSelector document) :
    ∃ raw, document.intoRawDocumentForConsistencyCheck = .ok raw ∧
      ValidatedTrustGrantDocument.tryFrom mapping raw = .ok document.restored := by
  obtain ⟨policy, written, validated⟩ := raw_policy_validated _ published.lineage.policy
  refine ⟨_, (Results.bind_ok_iff _ _ _).mpr ⟨policy, written, rfl⟩, ?_⟩
  have signed : normalizeNonEmptyString "signature" "rehydrated-signature" none =
      .ok "rehydrated-signature" := by decide +kernel
  refine try_from_of_parts _ _ rfl ?_ published.lineage signed
  exact {
    trustgrantId := PrefixedUuid.from_str_to_string (by decide) _
    grantSeriesId := PrefixedUuid.from_str_to_string (by decide) _
    revision := GrantRevision.new_of_get _
    supersedes := Results.map_option_inverse _ _ _ fun id _ =>
      PrefixedUuid.from_str_to_string (by decide) id
    supersessionPolicy := validated
    issuerAuthority := AuthorityId.new_of_value mapping _ published.authorities.issuer
    originAuthority := AuthorityId.new_of_value mapping _ published.authorities.origin
    activeOwningAuthority := AuthorityId.new_of_value mapping _ published.authorities.owner
    keyId := Token.new_of_value _
    targetScope := validate_raw_scope _ _ published.targetScope
    capabilities := rfl
    defaultAudienceScope := validate_raw_audience _ _ published.audience
    resourceScope := validate_raw_resource_scope _ published.resources
    globalTimeWindow := validate_raw_time_window _
    revocation := by
      cases present : document.revocation <;>
        simp [NormalizedTrustGrantDocument.restored, present, rawRevocation, RawRevocation.new,
          ValidatedRevocation.fromRaw]
    issuedAt := rfl
    issuerPrincipal := Results.map_option_inverse _ _ _ fun principal _ =>
      validate_raw_principal principal
    interoperabilityProfile := rfl }

/-! ## What the consistency check establishes -/

/-- No list of audience entries names an authority twice. -/
structure AudiencesDistinct (document : NormalizedTrustGrantDocument) : Prop where
  default : document.defaultAudienceScope.Pairwise
    fun earlier later => ¬ later.authorityId = earlier.authorityId
  types : ∀ entry ∈ document.resourceScope.entries,
    entry.2.constraints.audienceScope.Pairwise
      fun earlier later => ¬ later.authorityId = earlier.authorityId

/-- An audience that validates lists no authority twice. Lower-casing again changes nothing, so
equal authorities have equal texts. -/
theorem audience_distinct_of_validated (scopeName : String) (entries : List ValidatedAudienceEntry)
    (validated : List ValidatedAudienceEntry)
    (accepted : validateAudienceEntries mapping scopeName
      (unlessEmpty (entries.map rawAudienceEntry)) = .ok validated) :
    entries.Pairwise fun earlier later => ¬ later.authorityId = earlier.authorityId := by
  rw [validate_audience_entries_ok_iff, unless_empty_get, List.forall₂_map_left_iff] at accepted
  refine Results.paired_pairwise accepted.2.1 ?_ accepted.2.2
  intro first output second other made madeOther different same
  have sameText : (rawAudienceEntry second).authorityId = (rawAudienceEntry first).authorityId :=
    congrArg AuthorityId.value same
  have readAgain := madeOther.authority
  rw [sameText, made.authority] at readAgain
  exact different (Except.ok.inj readAgain).symm

/-- In a document that validates again, neither the default audience nor that of a type lists an
authority twice. -/
theorem audiences_distinct_of_validated (document : NormalizedTrustGrantDocument)
    (raw : RawTrustGrantDocument) (validated : ValidatedTrustGrantDocument)
    (written : document.intoRawDocumentForConsistencyCheck = .ok raw)
    (made : ValidatedFrom mapping raw validated) : AudiencesDistinct document := by
  obtain ⟨policy, -, written⟩ := (Results.bind_ok_iff _ _ _).mp written
  obtain rfl := (Results.pure_ok_iff _ _).mp written
  refine ⟨audience_distinct_of_validated _ _ _ made.defaultAudienceScope, fun entry member => ?_⟩
  obtain ⟨-, entries, read, -⟩ := (validate_resource_scope_ok_iff _ _ _).mp made.resourceScope
  have collected := document.resourceScope.of_renamed_perm wire_key_injective rawResourceType
  have kept := collected.mem_iff.mpr (List.mem_map_of_mem member)
  obtain ⟨output, -, -, typeMade⟩ := Results.paired_output read _ kept
  exact audience_distinct_of_validated _ _ _ typeMade.audience

/-- What the consistency check adds to what conversion establishes. It validates the rewritten
document, which compares the authorities of audiences, and compares the metadata with it. -/
theorem established_of_consistent (grant : VerifiedTrustGrant)
    (lowercased : AuthoritiesLowercased mapping grant.document)
    (consistent : ensureVerifiedGrantConsistent mapping grant .rfc8785 = .ok ()) :
    AudiencesDistinct grant.document ∧ MetadataInvariant grant.document grant.metadata := by
  simp only [ensureVerifiedGrantConsistent, Results.bind_ok_iff, exists_const,
    ensure_metadata_matches_document_ok_iff, ensure_revocation_state_matches_document_ok_iff,
    ensure_revocation_state_is_acceptable_ok_iff] at consistent
  obtain ⟨raw, written, validated, accepted, matched, checked, acceptable⟩ := consistent
  have made := validated_from mapping raw validated accepted
  refine ⟨audiences_distinct_of_validated _ _ _ written made, ?_⟩
  obtain ⟨policy, -, written⟩ := (Results.bind_ok_iff _ _ _).mp written
  obtain rfl := (Results.pure_ok_iff _ _).mp written
  refine metadata_invariant_of_matches _ validated _ matched checked acceptable ?_ ?_ ?_ ?_ ?_
  · exact Except.ok.inj (made.issuerAuthority.symm.trans
      (AuthorityId.new_of_value mapping _ lowercased.issuer))
  · exact Except.ok.inj (made.keyId.symm.trans (Token.new_of_value _))
  · refine Except.ok.inj (made.issuerPrincipal.symm.trans ?_)
    exact Results.map_option_inverse _ _ _ fun principal _ => validate_raw_principal principal
  · exact OwnershipAuthorityState.ext
      (Except.ok.inj (made.originAuthority.symm.trans
        (AuthorityId.new_of_value mapping _ lowercased.origin)))
      (Except.ok.inj (made.activeOwningAuthority.symm.trans
        (AuthorityId.new_of_value mapping _ lowercased.owner)))
  · rw [requiresRevocationCheck, ← made.revocation]
    cases grant.document.revocation <;> rfl

/-- A published grant is consistent. The rewritten document validates, and the compared fields
are those of the grant, so every comparison holds. -/
theorem consistent_of_invariant (grant : VerifiedTrustGrant)
    (established : GrantInvariant mapping PublishedSelector grant) :
    ensureVerifiedGrantConsistent mapping grant .rfc8785 = .ok () := by
  obtain ⟨raw, written, accepted⟩ := validate_raw_document grant.document established.document
  have metadata := established.metadata
  simp only [ensureVerifiedGrantConsistent, Results.bind_ok_iff, exists_const,
    ensure_metadata_matches_document_ok_iff, ensure_revocation_state_matches_document_ok_iff,
    ensure_revocation_state_is_acceptable_ok_iff]
  refine ⟨raw, written, _, accepted, ?_, ?_, metadata.acceptable⟩
  · exact {
      issuer := metadata.issuer
      keyId := metadata.keyId
      canonicalization := metadata.canonicalization
      active := metadata.active
      principal := metadata.principal
      origin := metadata.origin
      owner := metadata.owner }
  · rw [← metadata.checked, requiresRevocationCheck, NormalizedTrustGrantDocument.restored]
    cases grant.document.revocation <;> rfl

/-- The document that the consistency check judges is this one, but for its signature. -/
def JudgedAsStored (mapping : Text.CaseMapping) (document : ValidatedTrustGrantDocument) : Prop :=
  ∃ raw restored,
    (NormalizedTrustGrantDocument.ofValidated document).intoRawDocumentForConsistencyCheck =
      .ok raw ∧
    ValidatedTrustGrantDocument.tryFrom mapping raw = .ok restored ∧
    { restored with signature := document.signature } = document

/-- What the consistency check judges is determined by the document. Both the rewriting and the
validation are functions. -/
theorem restored_of_judged {mapping : Text.CaseMapping} {raw : RawTrustGrantDocument}
    {document restored : ValidatedTrustGrantDocument} (judged : JudgedAsStored mapping document)
    (written :
      (NormalizedTrustGrantDocument.ofValidated document).intoRawDocumentForConsistencyCheck =
      .ok raw)
    (restores : ValidatedTrustGrantDocument.tryFrom mapping raw = .ok restored) :
    { restored with signature := document.signature } = document := by
  obtain ⟨other, again, isOther, isAgain, same⟩ := judged
  cases written.symm.trans isOther
  cases restores.symm.trans isAgain
  exact same

/-- A document is restored with its revocation policy blocking everything. So it is the document
that was published exactly when its policy blocked everything. -/
theorem restored_same_iff (document : ValidatedTrustGrantDocument) :
    { (NormalizedTrustGrantDocument.ofValidated document).restored with
        signature := document.signature } = document ↔
      ∀ policy ∈ document.revocation, policy.postRevocationEffect = .blockAll := by
  constructor
  · rintro same policy stored
    have restored := congrArg ValidatedTrustGrantDocument.revocation same
    change document.revocation.map _ = document.revocation at restored
    rw [Option.mem_def.mp stored] at restored
    exact (congrArg ValidatedRevocation.postRevocationEffect (Option.some.inj restored)).symm
  · intro blocking
    have kept : (document.revocation.map fun policy =>
        { policy with postRevocationEffect := .blockAll }) = document.revocation := by
      cases stored : document.revocation with
      | none => rfl
      | some policy => rw [Option.map_some, ← blocking policy stored]
    show { document with revocation := document.revocation.map fun policy =>
        { policy with postRevocationEffect := .blockAll } } = document
    rw [kept]

/-- The consistency check judges an accepted document as it was published exactly when its
revocation policy, if it has one, blocks everything. The rewritten document always validates, to
the document with the default effect; this is the document itself exactly when the effect was the
default. -/
theorem judged_as_stored_iff (mapping : Text.CaseMapping) (raw : RawTrustGrantDocument)
    (document : ValidatedTrustGrantDocument)
    (accepted : ValidatedTrustGrantDocument.tryFrom mapping raw = .ok document) :
    JudgedAsStored mapping document ↔
      ∀ policy ∈ raw.revocation, policy.postRevocationEffect = .blockAll := by
  obtain ⟨written, isWritten, restores⟩ :=
    validate_raw_document _ (published_document mapping raw document accepted)
  have samePolicy : (∀ policy ∈ raw.revocation, policy.postRevocationEffect = .blockAll) ↔
      ∀ policy ∈ document.revocation, policy.postRevocationEffect = .blockAll := by
    rw [← (validated_from mapping raw document accepted).revocation]
    cases raw.revocation <;> simp [ValidatedRevocation.fromRaw]
  rw [samePolicy, ← restored_same_iff]
  exact ⟨fun judged => restored_of_judged judged isWritten restores,
    fun same => ⟨written, _, isWritten, restores, same⟩⟩

/-- A small document with a given effect of its revocation. -/
def smallRevocable (effect : PostRevocationEffect) : RawTrustGrantDocument :=
  { smallDocument ⟨true, none, none⟩ none none with revocation := some ⟨true, "e", effect⟩ }

/-- A small document that blocks everything is judged as it was published. The default effect is
the one it names. -/
theorem blocking_document_judged :
    ∃ document, ValidatedTrustGrantDocument.tryFrom Text.asciiCaseMapping
        (smallRevocable .blockAll) = .ok document ∧
      JudgedAsStored Text.asciiCaseMapping document := by
  have accepted := Results.value_of_eq (ValidatedTrustGrantDocument.tryFrom Text.asciiCaseMapping
    (smallRevocable .blockAll)) (by decide +kernel)
  refine ⟨_, accepted, (judged_as_stored_iff _ _ _ accepted).mpr ?_⟩
  rintro policy ⟨⟩
  rfl

/-- A small document that blocks minting only is judged as one that blocks everything. The
constructor of the wire policy sets the default effect, and the consistency check does not set
the one of the document. -/
theorem minting_effect_lost :
    ∃ document raw restored, ValidatedTrustGrantDocument.tryFrom Text.asciiCaseMapping
        (smallRevocable .blockMintingOnly) = .ok document ∧
      (NormalizedTrustGrantDocument.ofValidated document).intoRawDocumentForConsistencyCheck =
        .ok raw ∧
      ValidatedTrustGrantDocument.tryFrom Text.asciiCaseMapping raw = .ok restored ∧
      (document.revocation.map ValidatedRevocation.postRevocationEffect) =
        some .blockMintingOnly ∧
      (restored.revocation.map ValidatedRevocation.postRevocationEffect) = some .blockAll ∧
      ¬ JudgedAsStored Text.asciiCaseMapping document := by
  have accepted := Results.value_of_eq (ValidatedTrustGrantDocument.tryFrom Text.asciiCaseMapping
    (smallRevocable .blockMintingOnly)) (by decide +kernel)
  obtain ⟨raw, written, restores⟩ := validate_raw_document _
    (published_document _ _ _ accepted)
  refine ⟨_, raw, _, accepted, written, restores, ?_, ?_, fun judged => ?_⟩
  · decide +kernel
  · decide +kernel
  · have same := congrArg ValidatedTrustGrantDocument.revocation
      (restored_of_judged judged written restores)
    exact absurd same (by decide +kernel)

end TrustGrant
