import TrustGrant.Discovery.SignerBinding
import TrustGrant.Document.Validated

/-!
# Discovery documents

An authority publishes its keys and its signature profile, and for each principal it
delegates to a second document with the keys of that principal. A signer is resolved from
these documents by its key. Key identifiers of one document are distinct, and keys that
are marked as revoked are left out when a document is read.
-/

namespace TrustGrant

open Rust Limits Library

/-- How long an authority lets its revocation answers be relied on. That neither period is zero
is a field of the type. -/
structure DiscoveryRevocationPolicy where
  statusEndpoint : String
  nonRevokedTtlSeconds : UInt64
  maxStaleSeconds : UInt64
  positive : nonRevokedTtlSeconds ≠ 0 ∧ maxStaleSeconds ≠ 0
deriving DecidableEq

/-- A revocation policy of an authority, neither period of which is zero. -/
def DiscoveryRevocationPolicy.new (statusEndpoint : String)
    (nonRevokedTtlSeconds maxStaleSeconds : UInt64) :
    Except TrustGrantError DiscoveryRevocationPolicy :=
  if positive : nonRevokedTtlSeconds ≠ 0 ∧ maxStaleSeconds ≠ 0 then
    .ok ⟨statusEndpoint, nonRevokedTtlSeconds, maxStaleSeconds, positive⟩
  else .error .invalidRevocationPolicy

/-- Where an authority publishes the keys of its principals. An authority without one supports no
delegation. -/
structure DiscoveryDelegation where
  principalKeyEndpoint : String
deriving DecidableEq

/-- What an authority publishes about itself. The keys are those that were normalized, so their
identifiers differ. -/
structure AuthorityDiscoveryDocument where
  authorityId : AuthorityId
  keys : List AuthorityKeyRecord
  signatureProfile : SignatureProfile
  revocationPolicy : Option DiscoveryRevocationPolicy
  revocationEndpoints : List String
  issuedAt : DateTime
  delegation : Option DiscoveryDelegation
deriving DecidableEq

/-- The key of the signer among those of a document. Identifiers are distinct, so there is one at
most. -/
def findKey (keys : List AuthorityKeyRecord) (keyId : KeyId) :
    Except TrustGrantError AuthorityKeyRecord :=
  Results.okOr (keys.find? fun record => record.keyId = keyId) .missingSigningKey

/-- Resolve a signer that is the authority itself. Whether the key is active is not asked here
but where it is used. -/
def AuthorityDiscoveryDocument.resolveRootSignerBinding (document : AuthorityDiscoveryDocument)
    (issuerAuthority : AuthorityId) (keyId : KeyId) :
    Except TrustGrantError ResolvedSignerBinding := do
  Results.rejectIf (document.authorityId ≠ issuerAuthority) .discoveryAuthorityMismatch
  let keyRecord ← findKey document.keys keyId
  return ⟨document.authorityId, keyRecord, document.signatureProfile, none⟩

/-- What an authority publishes about a principal it delegates to. The keys are those that were
not marked as revoked. -/
structure DelegatedPrincipalKeyDocument where
  authorityId : AuthorityId
  principal : DelegatedPrincipalRef
  keys : List AuthorityKeyRecord
deriving DecidableEq

/-- Resolve a signer that is a delegated principal. Authority and principal have to be those of
the document, and the key is searched by its identifier. -/
def DelegatedPrincipalKeyDocument.resolveSignerBinding (document : DelegatedPrincipalKeyDocument)
    (issuerAuthority : AuthorityId) (issuerPrincipal : ValidatedPrincipal) (keyId : KeyId)
    (signatureProfile : SignatureProfile) : Except TrustGrantError ResolvedSignerBinding := do
  Results.rejectIf (document.authorityId ≠ issuerAuthority) .delegatedDiscoveryAuthorityMismatch
  Results.rejectIf (document.principal.kind ≠ issuerPrincipal.kind ∨
    document.principal.id ≠ issuerPrincipal.id) .delegatedPrincipalMismatch
  let keyRecord ← findKey document.keys keyId
  return ⟨document.authorityId, keyRecord, signatureProfile, some document.principal⟩

/-- A signature profile by two texts. -/
structure RawSignatureProfile where
  format : String
  canonicalization : String

/-- A key of an authority, before its texts are checked. -/
structure RawDiscoveryKeyRecord where
  keyId : String
  algorithm : String
  publicKey : String
  notBefore : DateTime
  notAfter : DateTime

/-- How an authority serves revocations, before anything is checked. -/
structure RawRevocationPolicy where
  statusEndpoint : String
  nonRevokedTtlSeconds : UInt64
  maxStaleSeconds : UInt64

/-- Whether an authority delegates, and where its principals' keys are. -/
structure RawDelegation where
  principalsSupported : Bool
  principalKeyEndpoint : String

/-- What an authority publishes about itself, as it is read. -/
structure RawAuthorityDiscoveryDocument where
  authorityId : String
  keys : List RawDiscoveryKeyRecord
  signatureProfile : RawSignatureProfile
  revocationPolicy : Option RawRevocationPolicy
  revocationEndpoints : Option (List String)
  issuedAt : DateTime
  delegation : Option RawDelegation

/-- A key of a delegated principal; its record says whether it was revoked. The other fields are
those of any key record. -/
structure RawDelegatedKeyRecord where
  record : RawDiscoveryKeyRecord
  revoked : Bool

/-- What an authority publishes about the keys of a principal, as it is read. -/
structure RawDelegatedPrincipalKeyDocument where
  authorityId : String
  principal : RawPrincipal
  keys : List RawDelegatedKeyRecord

/-- Validate keys one by one; each must differ from the ones seen before it. A record is read
before its identifier is compared, which decides about the error. -/
def collectUniqueKeyRecordsFrom (seenKeyIds : List KeyId) :
    List RawDiscoveryKeyRecord → Except TrustGrantError (List AuthorityKeyRecord)
  | [] => .ok []
  | raw :: rest => do
    let key ← AuthorityKeyRecord.new raw.keyId raw.algorithm raw.publicKey raw.notBefore
      raw.notAfter
    Results.rejectIf (key.keyId ∈ seenKeyIds) .duplicateKeyId
    let later ← collectUniqueKeyRecordsFrom (key.keyId :: seenKeyIds) rest
    return key :: later

/-- `collect_unique_key_records`: validate the keys of a document, none of which may occur
twice. -/
def collectUniqueKeyRecords (rawRecords : List RawDiscoveryKeyRecord) :
    Except TrustGrantError (List AuthorityKeyRecord) :=
  collectUniqueKeyRecordsFrom [] rawRecords

/-- A delegation that is declared must be supported. A declaration that says the opposite is an
error and not an absence. -/
def validateDelegation : Option RawDelegation → Except TrustGrantError (Option DiscoveryDelegation)
  | none => .ok none
  | some delegation => do
    Results.rejectIf (delegation.principalsSupported = false) .invalidDiscoveryDocument
    return some ⟨delegation.principalKeyEndpoint⟩

/-- Validate a discovery document, its sizes first. The order of the steps is the one of the
source, so the first error is the same. -/
def AuthorityDiscoveryDocument.tryFrom (mapping : Text.CaseMapping)
    (raw : RawAuthorityDiscoveryDocument) :
    Except TrustGrantError AuthorityDiscoveryDocument := do
  ensureCollectionLimit "discovery.keys" raw.keys.length maxDiscoveryKeys
  Results.rejectIf (raw.keys = []) .invalidDiscoveryDocument
  let authorityId ← AuthorityId.new mapping raw.authorityId
  let keys ← collectUniqueKeyRecords raw.keys
  let signatureProfile ← SignatureProfile.new raw.signatureProfile.format
    raw.signatureProfile.canonicalization
  let revocationPolicy ← raw.revocationPolicy.mapM fun policy =>
    DiscoveryRevocationPolicy.new policy.statusEndpoint policy.nonRevokedTtlSeconds
      policy.maxStaleSeconds
  let revocationEndpoints := raw.revocationEndpoints.getD []
  ensureCollectionLimit "discovery.revocation_endpoints" revocationEndpoints.length
    maxRevocationEndpoints
  let delegation ← validateDelegation raw.delegation
  return {
    authorityId, keys, signatureProfile, revocationPolicy, revocationEndpoints, delegation
    issuedAt := raw.issuedAt }

/-- Validate a document about a principal. Revoked keys are dropped before the rest are compared
with each other. -/
def DelegatedPrincipalKeyDocument.tryFrom (mapping : Text.CaseMapping)
    (raw : RawDelegatedPrincipalKeyDocument) :
    Except TrustGrantError DelegatedPrincipalKeyDocument := do
  ensureCollectionLimit "delegated_principal.keys" raw.keys.length maxDiscoveryKeys
  let authorityId ← AuthorityId.new mapping raw.authorityId
  let principal ← DelegatedPrincipalRef.new raw.principal.kind raw.principal.id
  let keys ← collectUniqueKeyRecords ((raw.keys.filter fun key => !key.revoked).map
    RawDelegatedKeyRecord.record)
  return ⟨authorityId, principal, keys⟩

/-- Reading JSON into the wire type is the work of the serde library, given here as a
function. -/
def parseDelegatedPrincipalKeyDocument (mapping : Text.CaseMapping)
    (fromStr : String → Option RawDelegatedPrincipalKeyDocument) (json : String) :
    Except TrustGrantError DelegatedPrincipalKeyDocument := do
  ensureJsonSize "delegated_principal_key" (Text.len json) maxDelegatedPrincipalJsonBytes
  let raw ← Results.okOr (fromStr json) .invalidDelegatedPrincipalDocument
  DelegatedPrincipalKeyDocument.tryFrom mapping raw

end TrustGrant
