import TrustGrant.Discovery.Documents
import TrustGrant.Document.Deserialize

/-!
# Reading discovery documents

The readers that serde derives for what an authority publishes about itself and about the
principals it delegates to. A document is read within its size limit and then normalized.

Reading ends in the normalized documents of the discovery source, so what the bundle holds
and what a text says are connected here. The texts themselves are read by the JSON library,
which is given as a function.
-/

namespace TrustGrant

open Rust Rust.Serde Library

namespace Limits

/-- `MAX_DISCOVERY_JSON_BYTES` -/
def maxDiscoveryJsonBytes : Nat := 64 * 1024

end Limits

open Limits

/-- The fields of a signature profile. -/
def RawSignatureProfile.shape : Shape where
  fields := ["format", "canonicalization"]
  denyUnknownFields := true
  defaulted := 0

/-- The derived reader of signature profiles. -/
def RawSignatureProfile.fromTree (tree : JsonTree) : Option RawSignatureProfile := do
  let members ← RawSignatureProfile.shape.members tree
  let format ← requiredField readString "format" members
  let canonicalization ← requiredField readString "canonicalization" members
  return ⟨format, canonicalization⟩

/-- The fields of a key record of an authority. -/
def RawDiscoveryKeyRecord.shape : Shape where
  fields := ["key_id", "algorithm", "public_key", "not_before", "not_after"]
  denyUnknownFields := true
  defaulted := 0

/-- The fields of the revocation policy of an authority. -/
def RawRevocationPolicy.shape : Shape where
  fields := ["status_endpoint", "non_revoked_ttl_seconds", "max_stale_seconds"]
  denyUnknownFields := true
  defaulted := 0

/-- The derived reader of revocation policies of authorities; whether the periods make sense is
checked later. -/
def RawRevocationPolicy.fromTree (tree : JsonTree) : Option RawRevocationPolicy := do
  let members ← RawRevocationPolicy.shape.members tree
  let statusEndpoint ← requiredField readString "status_endpoint" members
  let nonRevokedTtlSeconds ← requiredField readU64 "non_revoked_ttl_seconds" members
  let maxStaleSeconds ← requiredField readU64 "max_stale_seconds" members
  return ⟨statusEndpoint, nonRevokedTtlSeconds, maxStaleSeconds⟩

/-- The fields of a delegation. -/
def RawDelegation.shape : Shape where
  fields := ["principals_supported", "principal_key_endpoint"]
  denyUnknownFields := true
  defaulted := 0

/-- The derived reader of delegations. -/
def RawDelegation.fromTree (tree : JsonTree) : Option RawDelegation := do
  let members ← RawDelegation.shape.members tree
  let principalsSupported ← requiredField readBool "principals_supported" members
  let principalKeyEndpoint ← requiredField readString "principal_key_endpoint" members
  return ⟨principalsSupported, principalKeyEndpoint⟩

/-- The fields of a discovery document. -/
def RawAuthorityDiscoveryDocument.shape : Shape where
  fields := ["authority_id", "keys", "signature_profile", "revocation_policy",
    "revocation_endpoints", "issued_at", "delegation"]
  denyUnknownFields := true
  defaulted := 0

/-- `RawDelegatedPrincipal`, which has the fields of `RawPrincipal`. -/
def RawDelegatedPrincipal.shape : Shape where
  fields := ["kind", "id"]
  denyUnknownFields := true
  defaulted := 0

/-- The derived reader of the principal of a key document. -/
def RawDelegatedPrincipal.fromTree (tree : JsonTree) : Option RawPrincipal := do
  let members ← RawDelegatedPrincipal.shape.members tree
  let kind ← requiredField readString "kind" members
  let id ← requiredField readString "id" members
  return ⟨kind, id⟩

/-- The fields of a key record of a principal: those of an authority and whether the key was
revoked. -/
def RawDelegatedKeyRecord.shape : Shape where
  fields := ["key_id", "algorithm", "public_key", "not_before", "not_after", "revoked"]
  denyUnknownFields := true
  defaulted := 0

/-- The fields of a document about the keys of a principal. -/
def RawDelegatedPrincipalKeyDocument.shape : Shape where
  fields := ["authority_id", "principal", "keys"]
  denyUnknownFields := true
  defaulted := 0

section TimeStamps

variable (readDateTime : String → Option DateTime)

/-- The fields that the key records of both documents have. -/
def RawDiscoveryKeyRecord.fill (members : List (String × JsonTree)) :
    Option RawDiscoveryKeyRecord := do
  let keyId ← requiredField readString "key_id" members
  let algorithm ← requiredField readString "algorithm" members
  let publicKey ← requiredField readString "public_key" members
  let notBefore ← requiredField (readText readDateTime) "not_before" members
  let notAfter ← requiredField (readText readDateTime) "not_after" members
  return ⟨keyId, algorithm, publicKey, notBefore, notAfter⟩

/-- The derived reader of key records of an authority. -/
def RawDiscoveryKeyRecord.fromTree (tree : JsonTree) : Option RawDiscoveryKeyRecord := do
  let members ← RawDiscoveryKeyRecord.shape.members tree
  RawDiscoveryKeyRecord.fill readDateTime members

/-- The derived reader of discovery documents. -/
def RawAuthorityDiscoveryDocument.fromTree (tree : JsonTree) :
    Option RawAuthorityDiscoveryDocument := do
  let members ← RawAuthorityDiscoveryDocument.shape.members tree
  let authorityId ← requiredField readString "authority_id" members
  let keys ← requiredField (readVec (RawDiscoveryKeyRecord.fromTree readDateTime)) "keys" members
  let signatureProfile ← requiredField RawSignatureProfile.fromTree "signature_profile" members
  let revocationPolicy ← optionalField RawRevocationPolicy.fromTree "revocation_policy" members
  let revocationEndpoints ← optionalField (readVec readString) "revocation_endpoints" members
  let issuedAt ← requiredField (readText readDateTime) "issued_at" members
  let delegation ← optionalField RawDelegation.fromTree "delegation" members
  return ⟨authorityId, keys, signatureProfile, revocationPolicy, revocationEndpoints, issuedAt,
    delegation⟩

/-- The derived reader of key records of a principal, revoked ones included. -/
def RawDelegatedKeyRecord.fromTree (tree : JsonTree) : Option RawDelegatedKeyRecord := do
  let members ← RawDelegatedKeyRecord.shape.members tree
  let record ← RawDiscoveryKeyRecord.fill readDateTime members
  let revoked ← requiredField readBool "revoked" members
  return ⟨record, revoked⟩

/-- The derived reader of documents about the keys of a principal. -/
def RawDelegatedPrincipalKeyDocument.fromTree (tree : JsonTree) :
    Option RawDelegatedPrincipalKeyDocument := do
  let members ← RawDelegatedPrincipalKeyDocument.shape.members tree
  let authorityId ← requiredField readString "authority_id" members
  let principal ← requiredField RawDelegatedPrincipal.fromTree "principal" members
  let keys ← requiredField (readVec (RawDelegatedKeyRecord.fromTree readDateTime)) "keys" members
  return ⟨authorityId, principal, keys⟩

variable (parse : String → Option JsonTree)

/-- `serde_json::from_str` into a discovery document. -/
def RawAuthorityDiscoveryDocument.fromStr (json : String) :
    Option RawAuthorityDiscoveryDocument :=
  (parse json).bind (RawAuthorityDiscoveryDocument.fromTree readDateTime)

/-- `serde_json::from_str` into a document about a principal. -/
def RawDelegatedPrincipalKeyDocument.fromStr (json : String) :
    Option RawDelegatedPrincipalKeyDocument :=
  (parse json).bind (RawDelegatedPrincipalKeyDocument.fromTree readDateTime)

end TimeStamps

/-- `RawAuthorityDiscoveryDocument::parse_json_str` -/
def RawAuthorityDiscoveryDocument.parseJsonStr
    (fromStr : String → Option RawAuthorityDiscoveryDocument) (json : String) :
    Except TrustGrantError RawAuthorityDiscoveryDocument := do
  ensureJsonSize "authority_discovery" (Text.len json) maxDiscoveryJsonBytes
  Results.okOr (fromStr json) .invalidDiscoveryDocument

/-- `parse_authority_discovery_document`: the size, then the derived reader, then the checks of
the document. -/
def parseAuthorityDiscoveryDocument (mapping : Text.CaseMapping)
    (fromStr : String → Option RawAuthorityDiscoveryDocument) (json : String) :
    Except TrustGrantError AuthorityDiscoveryDocument := do
  let raw ← RawAuthorityDiscoveryDocument.parseJsonStr fromStr json
  AuthorityDiscoveryDocument.tryFrom mapping raw

end TrustGrant
