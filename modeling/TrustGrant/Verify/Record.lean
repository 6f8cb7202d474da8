import TrustGrant.Verify.Rehydration

/-!
# Stored grants

A verified grant is stored as a record of plain values. Reading it back parses every
identifier, name and expression again, checks the limits and shapes again, and compares the
metadata with the document. The revocation state alone is stored as it is.
-/

namespace TrustGrant

open Rust Limits Library

/-! ## Records -/

/-- A stored selector: its texts as validation left them, without the optional fields of the wire
selector. -/
structure SelectorRecord where
  kind : String
  all : Bool
  values : List String
  expressions : List String
deriving DecidableEq

/-- A stored scope with the selectors that it allows and those that it denies. -/
structure ScopeRecord where
  all : Bool
  allow : List SelectorRecord
  deny : List SelectorRecord
deriving DecidableEq

/-- What a stored grant allows in general. -/
structure CapabilitiesRecord where
  recognize : Bool
  mint : Bool
deriving DecidableEq

/-- One audience authority of a stored grant with the scope of its requests and of its
principals. -/
structure AudienceEntryRecord where
  authorityId : String
  scope : ScopeRecord
  principalScope : Option ScopeRecord
deriving DecidableEq

/-- The capabilities that a stored resource type sets for itself. -/
structure TypeCapabilitiesRecord where
  recognize : Option Bool
  mint : Option Bool
deriving DecidableEq

/-- The limits on minting that a stored resource type sets. -/
structure MintingConstraintsRecord where
  maxTotal : Option UInt64
  maxPerUser : Option UInt64
deriving DecidableEq

/-- The limits and the audience of a stored resource type. -/
structure TypeConstraintsRecord where
  minting : MintingConstraintsRecord
  audienceScope : List AudienceEntryRecord
deriving DecidableEq

/-- The custom operations that a stored resource type allows and denies. -/
structure OperationScopeRecord where
  allow : List String
  deny : List String
deriving DecidableEq

/-- A stored resource type, with the scope of its resources in its own fields. -/
structure ResourceTypeRecord where
  all : Bool
  allow : List SelectorRecord
  deny : List SelectorRecord
  capabilities : TypeCapabilitiesRecord
  constraints : TypeConstraintsRecord
  operations : Option OperationScopeRecord
deriving DecidableEq

/-- The period in which a stored grant is in force. -/
structure TimeWindowRecord where
  notBefore : DateTime
  notAfter : DateTime
deriving DecidableEq

/-- Whether and how a stored grant may be revoked, and what a revocation blocks. -/
structure RevocationPolicyRecord where
  revocable : Bool
  revocationEndpoint : String
  postRevocationEffect : PostRevocationEffect
deriving DecidableEq

/-- A principal as a kind and an identifier, before either is checked. -/
structure PrincipalRecord where
  kind : String
  id : String
deriving DecidableEq

/-- What becomes of the earlier grants of a series, as it is stored. -/
inductive SupersessionPolicyRecord where
  | coexist
  | supersedePrevious
  | explicitRevocationRequired
deriving DecidableEq

/-- The stored document of a grant. Identifiers and authorities are texts here, so that reading
it checks nothing about them. -/
structure NormalizedTrustGrantDocumentRecord where
  trustgrantId : String
  grantSeriesId : String
  revision : UInt64
  supersedes : Option String
  supersessionPolicy : SupersessionPolicyRecord
  issuerAuthority : String
  originAuthority : String
  activeOwningAuthority : String
  keyId : String
  targetScope : ScopeRecord
  capabilities : CapabilitiesRecord
  defaultAudienceScope : List AudienceEntryRecord
  resourceScope : SortedMap String ResourceTypeRecord
  globalTimeWindow : Option TimeWindowRecord
  revocation : Option RevocationPolicyRecord
  issuedAt : DateTime
  issuerPrincipal : Option PrincipalRecord
  interoperabilityProfile : Option InteroperabilityProfile

/-- The stored signing key of a grant with the period of its validity. -/
structure AuthorityKeyRecordRecord where
  keyId : String
  algorithm : String
  publicKey : String
  notBefore : DateTime
  notAfter : DateTime
deriving DecidableEq

/-- The stored names of a signature format and of a canonicalization. -/
structure SignatureProfileRecord where
  format : String
  canonicalization : String
deriving DecidableEq

/-- Who signed a stored grant and with which key. -/
structure ResolvedSignerBindingRecord where
  issuerAuthority : String
  keyRecord : AuthorityKeyRecordRecord
  signatureProfile : SignatureProfileRecord
  delegatedPrincipal : Option PrincipalRecord
deriving DecidableEq

/-- The stored outcome of the verification of ownership. -/
structure OwnershipVerificationRecordRecord where
  originAuthority : String
  activeOwningAuthority : String
  checkedAt : DateTime
  proofKind : OwnershipProofKind
  transitionChainTip : Option String
deriving DecidableEq

/-- What the verification of a stored grant established. -/
structure VerificationMetadataRecord where
  verifiedAt : DateTime
  posture : VerificationPosture
  signerBinding : ResolvedSignerBindingRecord
  ownership : OwnershipVerificationRecordRecord
  revocation : VerifiedRevocationState
deriving DecidableEq

/-- A verified grant as it is stored. -/
structure VerifiedTrustGrantRecord where
  recordVersion : UInt16
  document : NormalizedTrustGrantDocumentRecord
  metadata : VerificationMetadataRecord

/-! ## Writing -/

/-- The record of a validated selector. Expressions are stored by their text. -/
def SelectorRecord.ofValidated (selector : ValidatedSelector) : SelectorRecord where
  kind := selector.kind.asStr
  all := selector.all
  values := selector.values
  expressions := selector.expressions.map SelectorExpression.toString

/-- The record of a validated scope, selector by selector. -/
def ScopeRecord.ofValidated (scope : ValidatedScope) : ScopeRecord where
  all := scope.all
  allow := scope.allow.map .ofValidated
  deny := scope.deny.map .ofValidated

/-- The record of a validated audience entry; the authority is stored by its lower-cased text. -/
def AudienceEntryRecord.ofValidated (entry : ValidatedAudienceEntry) : AudienceEntryRecord where
  authorityId := entry.authorityId.value
  scope := .ofValidated entry.scope
  principalScope := entry.principalScope.map .ofValidated

/-- The record of a validated scope of operations. -/
def OperationScopeRecord.ofValidated (scope : ValidatedOperationScope) :
    OperationScopeRecord where
  allow := scope.allow.map Token.value
  deny := scope.deny.map Token.value

/-- The record of a validated resource type, with the scope of its resources spread over the
first three fields. -/
def ResourceTypeRecord.ofValidated (resourceType : ValidatedResourceType) :
    ResourceTypeRecord where
  all := resourceType.all
  allow := resourceType.allow.map .ofValidated
  deny := resourceType.deny.map .ofValidated
  capabilities := ⟨resourceType.capabilities.recognize, resourceType.capabilities.mint⟩
  constraints := {
    minting := ⟨resourceType.constraints.minting.maxTotal,
      resourceType.constraints.minting.maxPerUser⟩
    audienceScope := resourceType.constraints.audienceScope.map .ofValidated }
  operations := resourceType.operations.map .ofValidated

/-- The record of a validated time window. -/
def TimeWindowRecord.ofValidated (window : ValidatedTimeWindow) : TimeWindowRecord :=
  ⟨window.notBefore, window.notAfter⟩

/-- The record of a validated revocation policy, effect included. -/
def RevocationPolicyRecord.ofValidated (revocation : ValidatedRevocation) :
    RevocationPolicyRecord :=
  ⟨revocation.revocable, revocation.revocationEndpoint, revocation.postRevocationEffect⟩

/-- The record of a validated principal. -/
def PrincipalRecord.ofValidated (principal : ValidatedPrincipal) : PrincipalRecord :=
  ⟨principal.kind.value, principal.id.value⟩

/-- The record of a supersession policy. -/
def SupersessionPolicyRecord.ofPolicy : SupersessionPolicy → SupersessionPolicyRecord
  | .coexist => .coexist
  | .supersedePrevious => .supersedePrevious
  | .explicitRevocationRequired => .explicitRevocationRequired

/-- The record of a normalized document: every part through its own conversion, every identifier
by its text. -/
def NormalizedTrustGrantDocumentRecord.ofDocument (document : NormalizedTrustGrantDocument) :
    NormalizedTrustGrantDocumentRecord where
  trustgrantId := document.lineage.trustgrantId.toString
  grantSeriesId := document.lineage.grantSeriesId.toString
  revision := document.lineage.revision.get
  supersedes := document.lineage.supersedes.map PrefixedUuid.toString
  supersessionPolicy := .ofPolicy document.lineage.supersessionPolicy
  issuerAuthority := document.issuerAuthority.value
  originAuthority := document.ownershipAuthorityState.originAuthority.value
  activeOwningAuthority := document.ownershipAuthorityState.activeOwningAuthority.value
  keyId := document.keyId.value
  targetScope := .ofValidated document.targetScope
  capabilities := ⟨document.capabilities.recognize, document.capabilities.mint⟩
  defaultAudienceScope := document.defaultAudienceScope.map .ofValidated
  resourceScope := .ofEntries (document.resourceScope.entries.map fun entry =>
    (entry.1.value, .ofValidated entry.2))
  globalTimeWindow := document.globalTimeWindow.map .ofValidated
  revocation := document.revocation.map .ofValidated
  issuedAt := document.issuedAt
  issuerPrincipal := document.issuerPrincipal.map .ofValidated
  interoperabilityProfile := document.interoperabilityProfile

/-- The record of a signing key. -/
def AuthorityKeyRecordRecord.ofKeyRecord (record : AuthorityKeyRecord) :
    AuthorityKeyRecordRecord where
  keyId := record.keyId.value
  algorithm := record.algorithm.value
  publicKey := record.publicKey.value
  notBefore := record.notBefore
  notAfter := record.notAfter

/-- The record of a signature profile. -/
def SignatureProfileRecord.ofProfile (profile : SignatureProfile) : SignatureProfileRecord :=
  ⟨profile.format.value, profile.canonicalization.value⟩

/-- The record of a signer binding. -/
def ResolvedSignerBindingRecord.ofBinding (binding : ResolvedSignerBinding) :
    ResolvedSignerBindingRecord where
  issuerAuthority := binding.issuerAuthority.value
  keyRecord := .ofKeyRecord binding.keyRecord
  signatureProfile := .ofProfile binding.signatureProfile
  delegatedPrincipal := binding.delegatedPrincipal.map fun principal =>
    ⟨principal.kind.value, principal.id.value⟩

/-- The record of a verification of ownership. -/
def OwnershipVerificationRecordRecord.ofOwnership (ownership : OwnershipVerificationRecord) :
    OwnershipVerificationRecordRecord where
  originAuthority := ownership.originAuthority.value
  activeOwningAuthority := ownership.activeOwningAuthority.value
  checkedAt := ownership.checkedAt
  proofKind := ownership.proofKind
  transitionChainTip := ownership.transitionChainTip.map PrefixedUuid.toString

/-- The record of verification metadata. The revocation state is stored as it is. -/
def VerificationMetadataRecord.ofMetadata (metadata : VerificationMetadata) :
    VerificationMetadataRecord where
  verifiedAt := metadata.verifiedAt
  posture := metadata.posture
  signerBinding := .ofBinding metadata.signerBinding
  ownership := .ofOwnership metadata.ownership
  revocation := metadata.revocation

/-- `VERIFIED_TRUSTGRANT_RECORD_VERSION`, the only version that is rebuilt into a grant. -/
def verifiedTrustgrantRecordVersion : UInt16 := 1

/-- `VerifiedTrustGrantRecord::from`. -/
def VerifiedTrustGrantRecord.ofGrant (grant : VerifiedTrustGrant) : VerifiedTrustGrantRecord where
  recordVersion := verifiedTrustgrantRecordVersion
  document := .ofDocument grant.document
  metadata := .ofMetadata grant.metadata

/-! ## Reading -/

/-- The same normalization as for wire documents. -/
def normalizePersistedNonEmptyString (fieldName value : String) (maxBytes : Option Nat) :
    Except TrustGrantError String :=
  normalizeNonEmptyString fieldName value maxBytes

/-- Every text is trimmed and must then be neither empty nor longer than the limit. That two of
them are equal is not looked for here. -/
def normalizePersistedNonEmptyStrings (fieldName : String) (values : List String)
    (maxBytes : Nat) : Except TrustGrantError (List String) :=
  values.mapM fun value => normalizePersistedNonEmptyString fieldName value (some maxBytes)

/-- The checks of the validator again, on a stored selector: its sizes, its kind, its values and
its expressions, which are parsed anew from their texts. -/
def SelectorRecord.tryToValidatedSelector (record : SelectorRecord) :
    Except TrustGrantError ValidatedSelector := do
  ensureCollectionLimit "verified_record.selector_values" record.values.length
    maxSelectorValuesPerSelector
  ensureCollectionLimit "verified_record.selector_expressions" record.expressions.length
    maxSelectorExpressionsPerSelector
  let kind ← SelectorKind.new record.kind
  let values ← normalizePersistedNonEmptyStrings "selector.value" record.values
    maxSelectorValueBytes
  let expressions ← record.expressions.mapM fun expression => do
    let expression ← normalizePersistedNonEmptyString "selector.expression" expression
      (some maxSelectorExpressionBytes)
    SelectorExpression.parse expression
  ValidatedSelector.new kind record.all values expressions

/-- Read selectors one by one; each must differ from the ones seen before it. The source has this
loop a second time, for records. -/
def validateUniqueSelectorsFrom (seen : List ValidatedSelector) :
    List SelectorRecord → Except TrustGrantError (List ValidatedSelector)
  | [] => .ok []
  | record :: rest => do
    let selector ← record.tryToValidatedSelector
    Results.rejectIf (seen.contains selector = true) .duplicateSelector
    let later ← validateUniqueSelectorsFrom (selector :: seen) rest
    return selector :: later

/-- Rebuild a list of selectors, in which a repeated selector is an error. -/
def validateUniqueSelectors (records : List SelectorRecord) :
    Except TrustGrantError (List ValidatedSelector) :=
  validateUniqueSelectorsFrom [] records

/-- Rebuild a scope; its shape is checked by the constructor that the validator uses. -/
def ScopeRecord.tryToValidatedScope (record : ScopeRecord) (scopeName : String) :
    Except TrustGrantError ValidatedScope := do
  ensureCollectionLimit "verified_record.scope.allow" record.allow.length maxSelectorsPerScope
  ensureCollectionLimit "verified_record.scope.deny" record.deny.length maxSelectorsPerScope
  let allow ← validateUniqueSelectors record.allow
  let deny ← validateUniqueSelectors record.deny
  ValidatedScope.new scopeName record.all allow deny

/-- Rebuild an audience entry. An error of either scope carries the name that the caller gave for
the list of entries. -/
def AudienceEntryRecord.tryToValidatedAudienceEntry (mapping : Text.CaseMapping)
    (record : AudienceEntryRecord) (scopeName : String) :
    Except TrustGrantError ValidatedAudienceEntry := do
  let authorityId ← AuthorityId.new mapping record.authorityId
  let scope ← record.scope.tryToValidatedScope scopeName
  let principalScope ← record.principalScope.mapM fun scope => scope.tryToValidatedScope scopeName
  return ⟨authorityId, scope, principalScope⟩

/-- Rebuild a scope of custom operations, every name of which is checked again. -/
def OperationScopeRecord.tryToValidatedOperationScope (record : OperationScopeRecord) :
    Except TrustGrantError ValidatedOperationScope := do
  ensureCollectionLimit "verified_record.operation_scope.allow" record.allow.length
    maxOperationsPerScope
  ensureCollectionLimit "verified_record.operation_scope.deny" record.deny.length
    maxOperationsPerScope
  let allow ← record.allow.mapM OperationName.new
  let deny ← record.deny.mapM OperationName.new
  ValidatedOperationScope.new allow deny

/-- Rebuild a resource type: the lists of its scope, its audience and its operations. The sizes
of the three lists are checked before any of them is read. -/
def ResourceTypeRecord.tryToValidatedResourceType (mapping : Text.CaseMapping)
    (record : ResourceTypeRecord) : Except TrustGrantError ValidatedResourceType := do
  ensureCollectionLimit "verified_record.resource_type.allow" record.allow.length
    maxSelectorsPerScope
  ensureCollectionLimit "verified_record.resource_type.deny" record.deny.length
    maxSelectorsPerScope
  ensureCollectionLimit "verified_record.resource_type.audience_scope"
    record.constraints.audienceScope.length maxAudienceEntries
  let allow ← validateUniqueSelectors record.allow
  let deny ← validateUniqueSelectors record.deny
  let audienceScope ← record.constraints.audienceScope.mapM fun entry =>
    entry.tryToValidatedAudienceEntry mapping "resource_scope.audience_scope"
  let operations ← record.operations.mapM OperationScopeRecord.tryToValidatedOperationScope
  ValidatedResourceType.new record.all allow deny
    ⟨record.capabilities.recognize, record.capabilities.mint⟩
    ⟨⟨record.constraints.minting.maxTotal, record.constraints.minting.maxPerUser⟩, audienceScope⟩
    operations

/-- Rebuild a time window, whose ends must be in order. -/
def TimeWindowRecord.tryToValidatedTimeWindow (record : TimeWindowRecord) :
    Except TrustGrantError ValidatedTimeWindow :=
  ValidatedTimeWindow.new record.notBefore record.notAfter

/-- Rebuild a revocation policy. Nothing is checked, and the effect is kept. -/
def RevocationPolicyRecord.tryToValidatedRevocation (record : RevocationPolicyRecord) :
    ValidatedRevocation :=
  ⟨record.revocable, record.revocationEndpoint, record.postRevocationEffect⟩

/-- Rebuild the principal of an issuer from its two texts. -/
def PrincipalRecord.tryToValidatedPrincipal (record : PrincipalRecord) :
    Except TrustGrantError ValidatedPrincipal := do
  let kind ← PrincipalKind.new record.kind
  let id ← PrincipalId.new record.id
  return ⟨kind, id⟩

/-- The policy that a record names; one of them has no wire form. -/
def SupersessionPolicyRecord.tryToPolicy :
    SupersessionPolicyRecord → Except TrustGrantError SupersessionPolicy
  | .coexist => .ok .coexist
  | .supersedePrevious => .ok .supersedePrevious
  | .explicitRevocationRequired => .error .unsupportedV0WireSupersessionPolicy

/-- Rebuild a document in the order of the source, so that the first failing part gives the
error. The lineage is checked as the validator checks it, before any authority is read. -/
def NormalizedTrustGrantDocumentRecord.tryToNormalizedDocument (mapping : Text.CaseMapping)
    (record : NormalizedTrustGrantDocumentRecord) :
    Except TrustGrantError NormalizedTrustGrantDocument := do
  ensureCollectionLimit "verified_record.default_audience_scope"
    record.defaultAudienceScope.length maxAudienceEntries
  ensureCollectionLimit "verified_record.resource_scope" record.resourceScope.len maxResourceTypes
  let trustgrantId ← TrustGrantId.fromStr record.trustgrantId
  let grantSeriesId ← GrantSeriesId.fromStr record.grantSeriesId
  let revision ← GrantRevision.new record.revision
  let supersedes ← record.supersedes.mapM TrustGrantId.fromStr
  Results.rejectIf (revision.get = 1 ∧ supersedes.isSome) .invalidSupersedesForFirstRevision
  Results.rejectIf (supersedes = some trustgrantId) .selfSupersession
  let supersessionPolicy ← record.supersessionPolicy.tryToPolicy
  let issuerAuthority ← AuthorityId.new mapping record.issuerAuthority
  let originAuthority ← AuthorityId.new mapping record.originAuthority
  let activeOwningAuthority ← AuthorityId.new mapping record.activeOwningAuthority
  let keyId ← KeyId.new record.keyId
  let targetScope ← record.targetScope.tryToValidatedScope "target_scope"
  let defaultAudienceScope ← record.defaultAudienceScope.mapM fun entry =>
    entry.tryToValidatedAudienceEntry mapping "default_audience_scope"
  let types ← record.resourceScope.entries.mapM fun entry => do
    let name ← ResourceTypeName.new entry.1
    let resourceType ← entry.2.tryToValidatedResourceType mapping
    return (name, resourceType)
  let globalTimeWindow ← record.globalTimeWindow.mapM TimeWindowRecord.tryToValidatedTimeWindow
  let issuerPrincipal ← record.issuerPrincipal.mapM PrincipalRecord.tryToValidatedPrincipal
  return {
    lineage := ⟨trustgrantId, grantSeriesId, revision, supersedes, supersessionPolicy⟩
    issuerAuthority, keyId, targetScope, defaultAudienceScope, globalTimeWindow, issuerPrincipal
    ownershipAuthorityState := ⟨originAuthority, activeOwningAuthority⟩
    capabilities := ⟨record.capabilities.recognize, record.capabilities.mint⟩
    resourceScope := .ofEntries types
    revocation := record.revocation.map RevocationPolicyRecord.tryToValidatedRevocation
    issuedAt := record.issuedAt
    interoperabilityProfile := record.interoperabilityProfile }

/-- Rebuild a signing key through its constructor, which compares the ends of its validity. -/
def AuthorityKeyRecordRecord.tryIntoKeyRecord (record : AuthorityKeyRecordRecord) :
    Except TrustGrantError AuthorityKeyRecord :=
  AuthorityKeyRecord.new record.keyId record.algorithm record.publicKey record.notBefore
    record.notAfter

/-- Rebuild a signature profile from its two names. -/
def SignatureProfileRecord.tryIntoSignatureProfile (record : SignatureProfileRecord) :
    Except TrustGrantError SignatureProfile :=
  SignatureProfile.new record.format record.canonicalization

/-- Rebuild the principal that signed on behalf of the issuer. -/
def PrincipalRecord.tryIntoDelegatedPrincipal (record : PrincipalRecord) :
    Except TrustGrantError DelegatedPrincipalRef :=
  DelegatedPrincipalRef.new record.kind record.id

/-- Rebuild a signer binding from its parts, the issuer first. -/
def ResolvedSignerBindingRecord.tryIntoBinding (mapping : Text.CaseMapping)
    (record : ResolvedSignerBindingRecord) : Except TrustGrantError ResolvedSignerBinding := do
  let issuerAuthority ← AuthorityId.new mapping record.issuerAuthority
  let keyRecord ← record.keyRecord.tryIntoKeyRecord
  let signatureProfile ← record.signatureProfile.tryIntoSignatureProfile
  let delegatedPrincipal ←
    record.delegatedPrincipal.mapM PrincipalRecord.tryIntoDelegatedPrincipal
  return ⟨issuerAuthority, keyRecord, signatureProfile, delegatedPrincipal⟩

/-- Every error of the chain tip is reported as an invalid UUID. The two authorities come before
it, with their own errors. -/
def OwnershipVerificationRecordRecord.tryIntoOwnership (mapping : Text.CaseMapping)
    (record : OwnershipVerificationRecordRecord) :
    Except TrustGrantError OwnershipVerificationRecord := do
  let originAuthority ← AuthorityId.new mapping record.originAuthority
  let activeOwningAuthority ← AuthorityId.new mapping record.activeOwningAuthority
  let transitionChainTip ← (record.transitionChainTip.mapM TransitionId.fromStr).mapError
    fun _ => .invalidIdUuid
  return ⟨originAuthority, activeOwningAuthority, record.checkedAt, record.proofKind,
    transitionChainTip⟩

/-- Rebuild the metadata: the signer binding, then the ownership record. The revocation state is
taken as it was read, without another look at its times. -/
def VerificationMetadataRecord.tryIntoMetadata (mapping : Text.CaseMapping)
    (record : VerificationMetadataRecord) : Except TrustGrantError VerificationMetadata := do
  let signerBinding ← record.signerBinding.tryIntoBinding mapping
  let ownership ← record.ownership.tryIntoOwnership mapping
  return ⟨record.verifiedAt, record.posture, signerBinding, ownership, record.revocation⟩

/-- `VerifiedTrustGrantRecord::try_to_verified_grant`. The parts are read first, and the whole is
checked for consistency last. -/
def VerifiedTrustGrantRecord.tryToVerifiedGrant (mapping : Text.CaseMapping)
    (record : VerifiedTrustGrantRecord) : Except TrustGrantError VerifiedTrustGrant := do
  Results.rejectIf (record.recordVersion ≠ verifiedTrustgrantRecordVersion)
    (.unsupportedPersistedVerifiedGrantRecordVersion record.recordVersion)
  let document ← record.document.tryToNormalizedDocument mapping
  let metadata ← record.metadata.tryIntoMetadata mapping
  let verifiedGrant := VerifiedTrustGrant.new document metadata
  ensureVerifiedGrantConsistent mapping verifiedGrant
    (canonicalProfileForRehydrate verifiedGrant.metadata.posture)
  return verifiedGrant

/-- `VerifiedTrustGrantRecord::try_into_verified_grant`. -/
def VerifiedTrustGrantRecord.tryIntoVerifiedGrant (mapping : Text.CaseMapping)
    (record : VerifiedTrustGrantRecord) : Except TrustGrantError VerifiedTrustGrant :=
  record.tryToVerifiedGrant mapping

end TrustGrant
