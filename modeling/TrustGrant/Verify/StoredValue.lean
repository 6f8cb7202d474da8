import TrustGrant.Document.Deserialize
import TrustGrant.Document.WireValue
import TrustGrant.Verify.Record

/-!
# The JSON of stored grants

What serde derives for the records of stored grants: the value that is written and the reader.
Time stamps are read from their text by the chrono library, which is given as a function. The
record of a revocation is the only one that does not deny unknown fields.

Every type of a record has its shape and its reader, under the names of the fields in the
source. The types of numbers and identifiers are read with the limits that their
constructors check.
-/

namespace TrustGrant

open Rust Rust.Serde Library

/-- The names of the variants under `rename_all = "snake_case"`, by which serde reads a
supersession policy. -/
def SupersessionPolicyRecord.variants : List (String × SupersessionPolicyRecord) :=
  [("coexist", .coexist), ("supersede_previous", .supersedePrevious),
    ("explicit_revocation_required", .explicitRevocationRequired)]

/-- A supersession policy is written as the name of its variant, the one it is read by. -/
def SupersessionPolicyRecord.toValue : SupersessionPolicyRecord → Json
  | .coexist => .string "coexist"
  | .supersedePrevious => .string "supersede_previous"
  | .explicitRevocationRequired => .string "explicit_revocation_required"

/-- The names under which serde reads how the ownership of a grant was established. -/
def OwnershipProofKind.variants : List (String × OwnershipProofKind) :=
  [("static_owner", .staticOwner), ("transition_chain", .transitionChain)]

/-- The kind of an ownership proof is written as the name of its variant. -/
def OwnershipProofKind.toValue : OwnershipProofKind → Json
  | .staticOwner => .string "static_owner"
  | .transitionChain => .string "transition_chain"

/-- The names under which serde reads the status of a grant at its revocation source. -/
def RevocationStatus.variants : List (String × RevocationStatus) :=
  [("active", .active), ("revoked", .revoked)]

/-- The status is written as the name of its variant. -/
def RevocationStatus.toValue : RevocationStatus → Json
  | .active => .string "active"
  | .revoked => .string "revoked"

/-- The names under which serde reads where the status of a grant was learnt. -/
def RevocationSourceKind.variants : List (String × RevocationSourceKind) :=
  [("api", .api), ("snapshot", .snapshot), ("proof_bundle", .proofBundle),
    ("chain_state", .chainState), ("other", .other)]

/-- The kind of the source is written as the name of its variant. -/
def RevocationSourceKind.toValue : RevocationSourceKind → Json
  | .api => .string "api"
  | .snapshot => .string "snapshot"
  | .proofBundle => .string "proof_bundle"
  | .chainState => .string "chain_state"
  | .other => .string "other"

/-- The names under which serde reads how final a revocation proof is. -/
def ProofFinality.variants : List (String × ProofFinality) :=
  [("unknown", .unknown), ("observed", .observed), ("trusted_snapshot", .trustedSnapshot),
    ("finalized", .finalized)]

/-- The finality is written as the name of its variant. -/
def ProofFinality.toValue : ProofFinality → Json
  | .unknown => .string "unknown"
  | .observed => .string "observed"
  | .trustedSnapshot => .string "trusted_snapshot"
  | .finalized => .string "finalized"

/-- The names under which serde reads the posture of a verification. -/
def VerificationPosture.variants : List (String × VerificationPosture) :=
  [("online", .online), ("cached", .cached), ("offline", .offline)]

/-- The posture is written as the name of its variant. -/
def VerificationPosture.toValue : VerificationPosture → Json
  | .online => .string "online"
  | .cached => .string "cached"
  | .offline => .string "offline"

/-- The four fields of a stored selector, none of which may be left out or accompanied by
others. -/
def SelectorRecord.shape : Shape where
  fields := ["kind", "all", "values", "expressions"]
  denyUnknownFields := true
  defaulted := 0

/-- A stored selector always writes both of its lists, empty or not: unlike the wire selector it
has no optional fields. -/
def SelectorRecord.toValue (selector : SelectorRecord) : Json :=
  .object [("kind", .string selector.kind), ("all", .bool selector.all),
    ("values", listValue .string selector.values),
    ("expressions", listValue .string selector.expressions)]

/-- The derived reader of stored selectors. The values and expressions are read as plain strings
here; they are checked when the grant is rebuilt. -/
def SelectorRecord.fromTree (tree : JsonTree) : Option SelectorRecord := do
  let members ← SelectorRecord.shape.members tree
  let kind ← requiredField readString "kind" members
  let all ← requiredField readBool "all" members
  let values ← requiredField (readVec readString) "values" members
  let expressions ← requiredField (readVec readString) "expressions" members
  return ⟨kind, all, values, expressions⟩

/-- The fields of a stored scope, all of them required. -/
def ScopeRecord.shape : Shape where
  fields := ["all", "allow", "deny"]
  denyUnknownFields := true
  defaulted := 0

/-- Allowed and denied selectors are written as lists, with an empty list where there are
none. -/
def ScopeRecord.toValue (scope : ScopeRecord) : Json :=
  .object [("all", .bool scope.all), ("allow", listValue SelectorRecord.toValue scope.allow),
    ("deny", listValue SelectorRecord.toValue scope.deny)]

/-- The derived reader of stored scopes. That a scope allows everything or lists what it allows,
but not both, is not looked at here. -/
def ScopeRecord.fromTree (tree : JsonTree) : Option ScopeRecord := do
  let members ← ScopeRecord.shape.members tree
  let all ← requiredField readBool "all" members
  let allow ← requiredField (readVec SelectorRecord.fromTree) "allow" members
  let deny ← requiredField (readVec SelectorRecord.fromTree) "deny" members
  return ⟨all, allow, deny⟩

/-- The two fields of stored grant capabilities. -/
def CapabilitiesRecord.shape : Shape where
  fields := ["recognize", "mint"]
  denyUnknownFields := true
  defaulted := 0

/-- Both capabilities of a grant are written as booleans. -/
def CapabilitiesRecord.toValue (capabilities : CapabilitiesRecord) : Json :=
  .object [("recognize", .bool capabilities.recognize), ("mint", .bool capabilities.mint)]

/-- The derived reader of stored grant capabilities, which requires both of them. -/
def CapabilitiesRecord.fromTree (tree : JsonTree) : Option CapabilitiesRecord := do
  let members ← CapabilitiesRecord.shape.members tree
  let recognize ← requiredField readBool "recognize" members
  let mint ← requiredField readBool "mint" members
  return ⟨recognize, mint⟩

/-- The fields of a stored audience entry. The scope of principals is an `Option` and may be
missing although it has no default attribute. -/
def AudienceEntryRecord.shape : Shape where
  fields := ["authority_id", "scope", "principal_scope"]
  denyUnknownFields := true
  defaulted := 0

/-- An entry without a scope of principals writes null for it. -/
def AudienceEntryRecord.toValue (entry : AudienceEntryRecord) : Json :=
  .object [("authority_id", .string entry.authorityId), ("scope", entry.scope.toValue),
    ("principal_scope", optionValue ScopeRecord.toValue entry.principalScope)]

/-- The derived reader of stored audience entries; a missing scope of principals reads as null
does. -/
def AudienceEntryRecord.fromTree (tree : JsonTree) : Option AudienceEntryRecord := do
  let members ← AudienceEntryRecord.shape.members tree
  let authorityId ← requiredField readString "authority_id" members
  let scope ← requiredField ScopeRecord.fromTree "scope" members
  let principalScope ← optionalField ScopeRecord.fromTree "principal_scope" members
  return ⟨authorityId, scope, principalScope⟩

/-- The fields of the capabilities that a resource type may narrow. -/
def TypeCapabilitiesRecord.shape : Shape where
  fields := ["recognize", "mint"]
  denyUnknownFields := true
  defaulted := 0

/-- A capability that the type leaves to the grant is written as null. -/
def TypeCapabilitiesRecord.toValue (capabilities : TypeCapabilitiesRecord) : Json :=
  .object [("recognize", optionValue .bool capabilities.recognize),
    ("mint", optionValue .bool capabilities.mint)]

/-- The derived reader of type capabilities. Either may be missing or null, and is then left to
the grant. -/
def TypeCapabilitiesRecord.fromTree (tree : JsonTree) : Option TypeCapabilitiesRecord := do
  let members ← TypeCapabilitiesRecord.shape.members tree
  let recognize ← optionalField readBool "recognize" members
  let mint ← optionalField readBool "mint" members
  return ⟨recognize, mint⟩

/-- The two limits of a resource type. Unknown members are refused here, which the wire document
of the same name does not do. -/
def MintingConstraintsRecord.shape : Shape where
  fields := ["max_total", "max_per_user"]
  denyUnknownFields := true
  defaulted := 0

/-- Both limits are written, with null for one that is not set. -/
def MintingConstraintsRecord.toValue (minting : MintingConstraintsRecord) : Json :=
  .object [("max_total", optionValue u64Value minting.maxTotal),
    ("max_per_user", optionValue u64Value minting.maxPerUser)]

/-- The derived reader of minting limits; a missing or null limit is no limit. -/
def MintingConstraintsRecord.fromTree (tree : JsonTree) : Option MintingConstraintsRecord := do
  let members ← MintingConstraintsRecord.shape.members tree
  let maxTotal ← optionalField readU64 "max_total" members
  let maxPerUser ← optionalField readU64 "max_per_user" members
  return ⟨maxTotal, maxPerUser⟩

/-- The fields of stored type constraints. -/
def TypeConstraintsRecord.shape : Shape where
  fields := ["minting", "audience_scope"]
  denyUnknownFields := true
  defaulted := 0

/-- The minting limits and the audience of a type are written even where they say nothing. -/
def TypeConstraintsRecord.toValue (constraints : TypeConstraintsRecord) : Json :=
  .object [("minting", constraints.minting.toValue),
    ("audience_scope", listValue AudienceEntryRecord.toValue constraints.audienceScope)]

/-- The derived reader of type constraints. Both parts are required, since validation has filled
in what a wire document may omit. -/
def TypeConstraintsRecord.fromTree (tree : JsonTree) : Option TypeConstraintsRecord := do
  let members ← TypeConstraintsRecord.shape.members tree
  let minting ← requiredField MintingConstraintsRecord.fromTree "minting" members
  let audienceScope ← requiredField (readVec AudienceEntryRecord.fromTree) "audience_scope"
    members
  return ⟨minting, audienceScope⟩

/-- The fields of a stored scope of custom operations. -/
def OperationScopeRecord.shape : Shape where
  fields := ["allow", "deny"]
  denyUnknownFields := true
  defaulted := 0

/-- The allowed and denied operation names are written in their stored order. -/
def OperationScopeRecord.toValue (scope : OperationScopeRecord) : Json :=
  .object [("allow", listValue .string scope.allow), ("deny", listValue .string scope.deny)]

/-- The derived reader of operation scopes, which reads names as plain strings. -/
def OperationScopeRecord.fromTree (tree : JsonTree) : Option OperationScopeRecord := do
  let members ← OperationScopeRecord.shape.members tree
  let allow ← requiredField (readVec readString) "allow" members
  let deny ← requiredField (readVec readString) "deny" members
  return ⟨allow, deny⟩

/-- The fields of a stored resource type. Only the operations may be missing. -/
def ResourceTypeRecord.shape : Shape where
  fields := ["all", "allow", "deny", "capabilities", "constraints", "operations"]
  denyUnknownFields := true
  defaulted := 0

/-- A resource type writes its scope, its capabilities, its constraints and its operations, null
for the latter where no scope of operations is set. -/
def ResourceTypeRecord.toValue (resourceType : ResourceTypeRecord) : Json :=
  .object [("all", .bool resourceType.all),
    ("allow", listValue SelectorRecord.toValue resourceType.allow),
    ("deny", listValue SelectorRecord.toValue resourceType.deny),
    ("capabilities", resourceType.capabilities.toValue),
    ("constraints", resourceType.constraints.toValue),
    ("operations", optionValue OperationScopeRecord.toValue resourceType.operations)]

/-- The derived reader of stored resource types. -/
def ResourceTypeRecord.fromTree (tree : JsonTree) : Option ResourceTypeRecord := do
  let members ← ResourceTypeRecord.shape.members tree
  let all ← requiredField readBool "all" members
  let allow ← requiredField (readVec SelectorRecord.fromTree) "allow" members
  let deny ← requiredField (readVec SelectorRecord.fromTree) "deny" members
  let capabilities ← requiredField TypeCapabilitiesRecord.fromTree "capabilities" members
  let constraints ← requiredField TypeConstraintsRecord.fromTree "constraints" members
  let operations ← optionalField OperationScopeRecord.fromTree "operations" members
  return ⟨all, allow, deny, capabilities, constraints, operations⟩

/-- The fields of a stored revocation policy. The effect of a revocation is required, as it is in
the wire document. -/
def RevocationPolicyRecord.shape : Shape where
  fields := ["revocable", "revocation_endpoint", "post_revocation_effect"]
  denyUnknownFields := true
  defaulted := 0

/-- A revocation policy writes all three of its fields. -/
def RevocationPolicyRecord.toValue (policy : RevocationPolicyRecord) : Json :=
  .object [("revocable", .bool policy.revocable),
    ("revocation_endpoint", .string policy.revocationEndpoint),
    ("post_revocation_effect", policy.postRevocationEffect.toValue)]

/-- The derived reader of stored revocation policies. -/
def RevocationPolicyRecord.fromTree (tree : JsonTree) : Option RevocationPolicyRecord := do
  let members ← RevocationPolicyRecord.shape.members tree
  let revocable ← requiredField readBool "revocable" members
  let revocationEndpoint ← requiredField readString "revocation_endpoint" members
  let postRevocationEffect ← requiredField (readVariant PostRevocationEffect.variants)
    "post_revocation_effect" members
  return ⟨revocable, revocationEndpoint, postRevocationEffect⟩

/-- The fields of a stored principal. -/
def PrincipalRecord.shape : Shape where
  fields := ["kind", "id"]
  denyUnknownFields := true
  defaulted := 0

/-- A principal is written as its kind and its identifier. -/
def PrincipalRecord.toValue (principal : PrincipalRecord) : Json :=
  .object [("kind", .string principal.kind), ("id", .string principal.id)]

/-- The derived reader of stored principals, before either text is checked. -/
def PrincipalRecord.fromTree (tree : JsonTree) : Option PrincipalRecord := do
  let members ← PrincipalRecord.shape.members tree
  let kind ← requiredField readString "kind" members
  let id ← requiredField readString "id" members
  return ⟨kind, id⟩

/-- The fields of a stored signature profile. -/
def SignatureProfileRecord.shape : Shape where
  fields := ["format", "canonicalization"]
  denyUnknownFields := true
  defaulted := 0

/-- A signature profile is written as the names of its format and of its canonicalization. -/
def SignatureProfileRecord.toValue (profile : SignatureProfileRecord) : Json :=
  .object [("format", .string profile.format),
    ("canonicalization", .string profile.canonicalization)]

/-- The derived reader of stored signature profiles. -/
def SignatureProfileRecord.fromTree (tree : JsonTree) : Option SignatureProfileRecord := do
  let members ← SignatureProfileRecord.shape.members tree
  let format ← requiredField readString "format" members
  let canonicalization ← requiredField readString "canonicalization" members
  return ⟨format, canonicalization⟩

section TimeStamps

variable (readDateTime : String → Option DateTime)

/-- The fields of a stored time window. -/
def TimeWindowRecord.shape : Shape where
  fields := ["not_before", "not_after"]
  denyUnknownFields := true
  defaulted := 0

/-- Both ends of a time window are written as RFC 3339 texts. -/
def TimeWindowRecord.toValue (window : TimeWindowRecord) : Json :=
  .object [("not_before", dateTimeValue window.notBefore),
    ("not_after", dateTimeValue window.notAfter)]

/-- The derived reader of time windows. It does not compare the two ends. -/
def TimeWindowRecord.fromTree (tree : JsonTree) : Option TimeWindowRecord := do
  let members ← TimeWindowRecord.shape.members tree
  let notBefore ← requiredField (readText readDateTime) "not_before" members
  let notAfter ← requiredField (readText readDateTime) "not_after" members
  return ⟨notBefore, notAfter⟩

/-- The fields of a stored document in the order in which they are declared, so that an array is
read by it. Only the last one has a default. -/
def NormalizedTrustGrantDocumentRecord.shape : Shape where
  fields := ["trustgrant_id", "grant_series_id", "revision", "supersedes", "supersession_policy",
    "issuer_authority", "origin_authority", "active_owning_authority", "key_id", "target_scope",
    "capabilities", "default_audience_scope", "resource_scope", "global_time_window", "revocation",
    "issued_at", "issuer_principal", "interoperability_profile"]
  denyUnknownFields := true
  defaulted := 1

/-- The profile is left out when it is absent. All other absent values are written as null. -/
def NormalizedTrustGrantDocumentRecord.toValue (document : NormalizedTrustGrantDocumentRecord) :
    Json :=
  .object ([("trustgrant_id", .string document.trustgrantId),
    ("grant_series_id", .string document.grantSeriesId), ("revision", u64Value document.revision),
    ("supersedes", optionValue .string document.supersedes),
    ("supersession_policy", document.supersessionPolicy.toValue),
    ("issuer_authority", .string document.issuerAuthority),
    ("origin_authority", .string document.originAuthority),
    ("active_owning_authority", .string document.activeOwningAuthority),
    ("key_id", .string document.keyId), ("target_scope", document.targetScope.toValue),
    ("capabilities", document.capabilities.toValue),
    ("default_audience_scope", listValue AudienceEntryRecord.toValue document.defaultAudienceScope),
    ("resource_scope", .object (document.resourceScope.entries.map fun entry =>
      (entry.1, entry.2.toValue))),
    ("global_time_window", optionValue TimeWindowRecord.toValue document.globalTimeWindow),
    ("revocation", optionValue RevocationPolicyRecord.toValue document.revocation),
    ("issued_at", dateTimeValue document.issuedAt),
    ("issuer_principal", optionValue PrincipalRecord.toValue document.issuerPrincipal)] ++
    profileMember document.interoperabilityProfile)

/-- The derived reader of stored documents. The resource types are read into a map, so a later
type replaces an earlier one of the same name. -/
def NormalizedTrustGrantDocumentRecord.fromTree (tree : JsonTree) :
    Option NormalizedTrustGrantDocumentRecord := do
  let members ← NormalizedTrustGrantDocumentRecord.shape.members tree
  let trustgrantId ← requiredField readString "trustgrant_id" members
  let grantSeriesId ← requiredField readString "grant_series_id" members
  let revision ← requiredField readU64 "revision" members
  let supersedes ← optionalField readString "supersedes" members
  let supersessionPolicy ← requiredField (readVariant SupersessionPolicyRecord.variants)
    "supersession_policy" members
  let issuerAuthority ← requiredField readString "issuer_authority" members
  let originAuthority ← requiredField readString "origin_authority" members
  let activeOwningAuthority ← requiredField readString "active_owning_authority" members
  let keyId ← requiredField readString "key_id" members
  let targetScope ← requiredField ScopeRecord.fromTree "target_scope" members
  let capabilities ← requiredField CapabilitiesRecord.fromTree "capabilities" members
  let defaultAudienceScope ← requiredField (readVec AudienceEntryRecord.fromTree)
    "default_audience_scope" members
  let resourceScope ← requiredField (readMap id ResourceTypeRecord.fromTree)
    "resource_scope" members
  let globalTimeWindow ← optionalField (TimeWindowRecord.fromTree readDateTime)
    "global_time_window" members
  let revocation ← optionalField RevocationPolicyRecord.fromTree "revocation" members
  let issuedAt ← requiredField (readText readDateTime) "issued_at" members
  let issuerPrincipal ← optionalField PrincipalRecord.fromTree "issuer_principal" members
  let interoperabilityProfile ← optionalField InteroperabilityProfile.fromTree
    "interoperability_profile" members
  return ⟨trustgrantId, grantSeriesId, revision, supersedes, supersessionPolicy, issuerAuthority,
    originAuthority, activeOwningAuthority, keyId, targetScope, capabilities, defaultAudienceScope,
    resourceScope, globalTimeWindow, revocation, issuedAt, issuerPrincipal,
    interoperabilityProfile⟩

/-- The fields of a stored signing key. -/
def AuthorityKeyRecordRecord.shape : Shape where
  fields := ["key_id", "algorithm", "public_key", "not_before", "not_after"]
  denyUnknownFields := true
  defaulted := 0

/-- A signing key is written with the period of its validity. -/
def AuthorityKeyRecordRecord.toValue (record : AuthorityKeyRecordRecord) : Json :=
  .object [("key_id", .string record.keyId), ("algorithm", .string record.algorithm),
    ("public_key", .string record.publicKey), ("not_before", dateTimeValue record.notBefore),
    ("not_after", dateTimeValue record.notAfter)]

/-- The derived reader of stored signing keys. -/
def AuthorityKeyRecordRecord.fromTree (tree : JsonTree) : Option AuthorityKeyRecordRecord := do
  let members ← AuthorityKeyRecordRecord.shape.members tree
  let keyId ← requiredField readString "key_id" members
  let algorithm ← requiredField readString "algorithm" members
  let publicKey ← requiredField readString "public_key" members
  let notBefore ← requiredField (readText readDateTime) "not_before" members
  let notAfter ← requiredField (readText readDateTime) "not_after" members
  return ⟨keyId, algorithm, publicKey, notBefore, notAfter⟩

/-- The fields of a stored signer binding. -/
def ResolvedSignerBindingRecord.shape : Shape where
  fields := ["issuer_authority", "key_record", "signature_profile", "delegated_principal"]
  denyUnknownFields := true
  defaulted := 0

/-- A signer binding is written as the issuer, its key, the profile of the signature and the
principal that signed on behalf of the issuer, if any. -/
def ResolvedSignerBindingRecord.toValue (binding : ResolvedSignerBindingRecord) : Json :=
  .object [("issuer_authority", .string binding.issuerAuthority),
    ("key_record", binding.keyRecord.toValue),
    ("signature_profile", binding.signatureProfile.toValue),
    ("delegated_principal", optionValue PrincipalRecord.toValue binding.delegatedPrincipal)]

/-- The derived reader of stored signer bindings. -/
def ResolvedSignerBindingRecord.fromTree (tree : JsonTree) :
    Option ResolvedSignerBindingRecord := do
  let members ← ResolvedSignerBindingRecord.shape.members tree
  let issuerAuthority ← requiredField readString "issuer_authority" members
  let keyRecord ← requiredField (AuthorityKeyRecordRecord.fromTree readDateTime)
    "key_record" members
  let signatureProfile ← requiredField SignatureProfileRecord.fromTree "signature_profile" members
  let delegatedPrincipal ← optionalField PrincipalRecord.fromTree "delegated_principal" members
  return ⟨issuerAuthority, keyRecord, signatureProfile, delegatedPrincipal⟩

/-- The fields of a stored ownership record. -/
def OwnershipVerificationRecordRecord.shape : Shape where
  fields := ["origin_authority", "active_owning_authority", "checked_at", "proof_kind",
    "transition_chain_tip"]
  denyUnknownFields := true
  defaulted := 0

/-- An ownership record is written as the two authorities, the time of the check, the way in
which the ownership was established and the last transition of the chain, if there was one. -/
def OwnershipVerificationRecordRecord.toValue (ownership : OwnershipVerificationRecordRecord) :
    Json :=
  .object [("origin_authority", .string ownership.originAuthority),
    ("active_owning_authority", .string ownership.activeOwningAuthority),
    ("checked_at", dateTimeValue ownership.checkedAt), ("proof_kind", ownership.proofKind.toValue),
    ("transition_chain_tip", optionValue .string ownership.transitionChainTip)]

/-- The derived reader of stored ownership records. It accepts any kind of proof next to any two
authorities. -/
def OwnershipVerificationRecordRecord.fromTree (tree : JsonTree) :
    Option OwnershipVerificationRecordRecord := do
  let members ← OwnershipVerificationRecordRecord.shape.members tree
  let originAuthority ← requiredField readString "origin_authority" members
  let activeOwningAuthority ← requiredField readString "active_owning_authority" members
  let checkedAt ← requiredField (readText readDateTime) "checked_at" members
  let proofKind ← requiredField (readVariant OwnershipProofKind.variants) "proof_kind" members
  let transitionChainTip ← optionalField readString "transition_chain_tip" members
  return ⟨originAuthority, activeOwningAuthority, checkedAt, proofKind, transitionChainTip⟩

/-- The type does not deny unknown fields. -/
def RevocationRecord.shape : Shape where
  fields := ["status", "source_kind", "finality", "checked_at", "fresh_until"]
  denyUnknownFields := false
  defaulted := 0

/-- A revocation record is written with the time at which the status was checked and the one
until which it is fresh. -/
def RevocationRecord.toValue (record : RevocationRecord) : Json :=
  .object [("status", record.status.toValue), ("source_kind", record.sourceKind.toValue),
    ("finality", record.finality.toValue), ("checked_at", dateTimeValue record.checkedAt),
    ("fresh_until", dateTimeValue record.freshUntil)]

/-- The derived reader of revocation records. It bypasses the constructor, so the order of the
two times is not checked. -/
def RevocationRecord.fromTree (tree : JsonTree) : Option RevocationRecord := do
  let members ← RevocationRecord.shape.members tree
  let status ← requiredField (readVariant RevocationStatus.variants) "status" members
  let sourceKind ← requiredField (readVariant RevocationSourceKind.variants) "source_kind" members
  let finality ← requiredField (readVariant ProofFinality.variants) "finality" members
  let checkedAt ← requiredField (readText readDateTime) "checked_at" members
  let freshUntil ← requiredField (readText readDateTime) "fresh_until" members
  return ⟨status, sourceKind, finality, checkedAt, freshUntil⟩

/-- A variant with data is an object that gives its name the data. -/
def VerifiedRevocationState.toValue : VerifiedRevocationState → Json
  | .nonRevocable => .string "non_revocable"
  | .checked record => .object [("checked", record.toValue)]

/-- The derived reader of revocation states: a variant without data may be given by its name
alone, one with data is an object with a single member. -/
def VerifiedRevocationState.fromTree : JsonTree → Option VerifiedRevocationState
  | .string "non_revocable" => some .nonRevocable
  | .object [("non_revocable", .null)] => some .nonRevocable
  | .object [("checked", tree)] => (RevocationRecord.fromTree readDateTime tree).map .checked
  | _ => none

/-- The fields of stored verification metadata. -/
def VerificationMetadataRecord.shape : Shape where
  fields := ["verified_at", "posture", "signer_binding", "ownership", "revocation"]
  denyUnknownFields := true
  defaulted := 0

/-- The metadata are written as the time and the posture of the verification, the signer binding,
the ownership record and the revocation state. -/
def VerificationMetadataRecord.toValue (metadata : VerificationMetadataRecord) : Json :=
  .object [("verified_at", dateTimeValue metadata.verifiedAt),
    ("posture", metadata.posture.toValue), ("signer_binding", metadata.signerBinding.toValue),
    ("ownership", metadata.ownership.toValue), ("revocation", metadata.revocation.toValue)]

/-- The derived reader of stored verification metadata. -/
def VerificationMetadataRecord.fromTree (tree : JsonTree) : Option VerificationMetadataRecord := do
  let members ← VerificationMetadataRecord.shape.members tree
  let verifiedAt ← requiredField (readText readDateTime) "verified_at" members
  let posture ← requiredField (readVariant VerificationPosture.variants) "posture" members
  let signerBinding ← requiredField (ResolvedSignerBindingRecord.fromTree readDateTime)
    "signer_binding" members
  let ownership ← requiredField (OwnershipVerificationRecordRecord.fromTree readDateTime)
    "ownership" members
  let revocation ← requiredField (VerifiedRevocationState.fromTree readDateTime)
    "revocation" members
  return ⟨verifiedAt, posture, signerBinding, ownership, revocation⟩

/-- The fields of a stored grant: the version of the format, the document and the metadata. -/
def VerifiedTrustGrantRecord.shape : Shape where
  fields := ["record_version", "document", "metadata"]
  denyUnknownFields := true
  defaulted := 0

/-- A stored grant is written with the version of its format first. -/
def VerifiedTrustGrantRecord.toValue (record : VerifiedTrustGrantRecord) : Json :=
  .object [("record_version", .number record.recordVersion.toNat),
    ("document", record.document.toValue), ("metadata", record.metadata.toValue)]

/-- The derived reader of stored grants. Any version is read; it is compared when the grant is
rebuilt. -/
def VerifiedTrustGrantRecord.fromTree (tree : JsonTree) : Option VerifiedTrustGrantRecord := do
  let members ← VerifiedTrustGrantRecord.shape.members tree
  let recordVersion ← requiredField readU16 "record_version" members
  let document ← requiredField (NormalizedTrustGrantDocumentRecord.fromTree readDateTime)
    "document" members
  let metadata ← requiredField (VerificationMetadataRecord.fromTree readDateTime) "metadata"
    members
  return ⟨recordVersion, document, metadata⟩

/-- `serde_json::from_str::<VerifiedTrustGrantRecord>`; the text is read by a function. -/
def VerifiedTrustGrantRecord.fromStr (parse : String → Option JsonTree) (json : String) :
    Option VerifiedTrustGrantRecord :=
  (parse json).bind (VerifiedTrustGrantRecord.fromTree readDateTime)

end TimeStamps

end TrustGrant
