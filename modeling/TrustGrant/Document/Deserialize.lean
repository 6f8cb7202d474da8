import TrustGrant.Document.OwnershipTransition
import TrustGrant.Domain.Utf16Order
import TrustGrant.Rust.Serde

/-!
# Reading wire documents

The readers that serde derives for the wire types of grants and of ownership transitions.
Each type has its shape, which lists the names of its fields and its attributes. Time stamps
are read from their text by the chrono library, which is given as a function.
-/

namespace TrustGrant

open Rust Rust.Serde Library Limits

/-- The names of the policies on the wire. A wire document cannot ask for explicit revocation. -/
def RawSupersessionPolicy.variants : List (String × RawSupersessionPolicy) :=
  [("coexist", .coexist), ("supersede_previous", .supersedePrevious)]

/-- The names of the effects on the wire. -/
def PostRevocationEffect.variants : List (String × PostRevocationEffect) :=
  [("block_minting_only", .blockMintingOnly), ("block_all", .blockAll)]

/-- Both fields of a principal are required. -/
def RawPrincipal.shape : Shape where
  fields := ["kind", "id"]
  denyUnknownFields := true
  defaulted := 0

/-- The derived reader of principals, which checks neither text. -/
def RawPrincipal.fromTree (tree : JsonTree) : Option RawPrincipal := do
  let members ← RawPrincipal.shape.members tree
  let kind ← requiredField readString "kind" members
  let id ← requiredField readString "id" members
  return ⟨kind, id⟩

/-- The fields of a selector in the order of their declaration. -/
def RawSelector.shape : Shape where
  fields := ["kind", "all", "values", "expressions"]
  denyUnknownFields := true
  defaulted := 0

/-- The derived reader of selectors. Either list may be missing; that a selector names something
is checked by validation. -/
def RawSelector.fromTree (tree : JsonTree) : Option RawSelector := do
  let members ← RawSelector.shape.members tree
  let kind ← requiredField readString "kind" members
  let all ← requiredField readBool "all" members
  let values ← optionalField (readVec readString) "values" members
  let expressions ← optionalField (readVec readString) "expressions" members
  return ⟨kind, all, values, expressions⟩

/-- The fields of a scope. -/
def RawScope.shape : Shape where
  fields := ["all", "allow", "deny"]
  denyUnknownFields := true
  defaulted := 0

/-- The derived reader of scopes, whose lists may be missing. -/
def RawScope.fromTree (tree : JsonTree) : Option RawScope := do
  let members ← RawScope.shape.members tree
  let all ← requiredField readBool "all" members
  let allow ← optionalField (readVec RawSelector.fromTree) "allow" members
  let deny ← optionalField (readVec RawSelector.fromTree) "deny" members
  return ⟨all, allow, deny⟩

/-- The type does not deny unknown fields. -/
def RawCapabilities.shape : Shape where
  fields := ["recognize", "mint"]
  denyUnknownFields := false
  defaulted := 0

/-- The derived reader of grant capabilities, which requires both and ignores what else is
there. -/
def RawCapabilities.fromTree (tree : JsonTree) : Option RawCapabilities := do
  let members ← RawCapabilities.shape.members tree
  let recognize ← requiredField readBool "recognize" members
  let mint ← requiredField readBool "mint" members
  return ⟨recognize, mint⟩

/-- The fields of an audience entry. -/
def RawAudienceEntry.shape : Shape where
  fields := ["authority_id", "scope", "principal_scope"]
  denyUnknownFields := true
  defaulted := 0

/-- The derived reader of audience entries; only the scope of principals may be missing. -/
def RawAudienceEntry.fromTree (tree : JsonTree) : Option RawAudienceEntry := do
  let members ← RawAudienceEntry.shape.members tree
  let authorityId ← requiredField readString "authority_id" members
  let scope ← requiredField RawScope.fromTree "scope" members
  let principalScope ← optionalField RawScope.fromTree "principal_scope" members
  return ⟨authorityId, scope, principalScope⟩

/-- The type does not deny unknown fields. -/
def RawTypeCapabilities.shape : Shape where
  fields := ["recognize", "mint"]
  denyUnknownFields := false
  defaulted := 0

/-- The derived reader of type capabilities. A misspelled capability is ignored, and the type
then takes that of the grant. -/
def RawTypeCapabilities.fromTree (tree : JsonTree) : Option RawTypeCapabilities := do
  let members ← RawTypeCapabilities.shape.members tree
  let recognize ← optionalField readBool "recognize" members
  let mint ← optionalField readBool "mint" members
  return ⟨recognize, mint⟩

/-- The type does not deny unknown fields. -/
def RawMintingConstraints.shape : Shape where
  fields := ["max_total", "max_per_user"]
  denyUnknownFields := false
  defaulted := 0

/-- The derived reader of minting limits. A misspelled limit is ignored, and there is then no
limit. -/
def RawMintingConstraints.fromTree (tree : JsonTree) : Option RawMintingConstraints := do
  let members ← RawMintingConstraints.shape.members tree
  let maxTotal ← optionalField readU64 "max_total" members
  let maxPerUser ← optionalField readU64 "max_per_user" members
  return ⟨maxTotal, maxPerUser⟩

/-- The fields of type constraints. Unknown members are denied here, but not in the limits
inside. -/
def RawTypeConstraints.shape : Shape where
  fields := ["minting", "audience_scope"]
  denyUnknownFields := true
  defaulted := 0

/-- The derived reader of type constraints, which requires the limits. -/
def RawTypeConstraints.fromTree (tree : JsonTree) : Option RawTypeConstraints := do
  let members ← RawTypeConstraints.shape.members tree
  let minting ← requiredField RawMintingConstraints.fromTree "minting" members
  let audienceScope ← optionalField (readVec RawAudienceEntry.fromTree) "audience_scope" members
  return ⟨minting, audienceScope⟩

/-- The fields of an operation scope. -/
def RawOperationScope.shape : Shape where
  fields := ["allow", "deny"]
  denyUnknownFields := true
  defaulted := 0

/-- The derived reader of operation scopes, whose lists may be missing. -/
def RawOperationScope.fromTree (tree : JsonTree) : Option RawOperationScope := do
  let members ← RawOperationScope.shape.members tree
  let allow ← optionalField (readVec readString) "allow" members
  let deny ← optionalField (readVec readString) "deny" members
  return ⟨allow, deny⟩

/-- The fields of a resource type. -/
def RawResourceType.shape : Shape where
  fields := ["all", "allow", "deny", "capabilities", "constraints", "operations"]
  denyUnknownFields := true
  defaulted := 0

/-- The derived reader of resource types: capabilities and constraints are required, even as
empty objects. -/
def RawResourceType.fromTree (tree : JsonTree) : Option RawResourceType := do
  let members ← RawResourceType.shape.members tree
  let all ← requiredField readBool "all" members
  let allow ← optionalField (readVec RawSelector.fromTree) "allow" members
  let deny ← optionalField (readVec RawSelector.fromTree) "deny" members
  let capabilities ← requiredField RawTypeCapabilities.fromTree "capabilities" members
  let constraints ← requiredField RawTypeConstraints.fromTree "constraints" members
  let operations ← optionalField RawOperationScope.fromTree "operations" members
  return ⟨all, allow, deny, capabilities, constraints, operations⟩

/-- The only field of a resource scope. -/
def RawResourceScope.shape : Shape where
  fields := ["types"]
  denyUnknownFields := true
  defaulted := 0

/-- The keys are transparent. -/
def RawResourceScope.fromTree (tree : JsonTree) : Option RawResourceScope := do
  let members ← RawResourceScope.shape.members tree
  let types ← requiredField (readMap Utf16Key.mk RawResourceType.fromTree) "types" members
  return ⟨types⟩

/-- The fields of an interoperability profile. -/
def InteroperabilityProfile.shape : Shape where
  fields := ["name", "version"]
  denyUnknownFields := true
  defaulted := 0

/-- The derived reader of interoperability profiles. -/
def InteroperabilityProfile.fromTree (tree : JsonTree) : Option InteroperabilityProfile := do
  let members ← InteroperabilityProfile.shape.members tree
  let name ← requiredField readString "name" members
  let version ← requiredField readU64 "version" members
  return ⟨name, version⟩

/-- The effect has no default here although its type has one. -/
def RawRevocation.shape : Shape where
  fields := ["revocable", "revocation_endpoint", "post_revocation_effect"]
  denyUnknownFields := true
  defaulted := 0

/-- The derived reader of revocation policies. All three fields are required. -/
def RawRevocation.fromTree (tree : JsonTree) : Option RawRevocation := do
  let members ← RawRevocation.shape.members tree
  let revocable ← requiredField readBool "revocable" members
  let revocationEndpoint ← requiredField readString "revocation_endpoint" members
  let postRevocationEffect ← requiredField (readVariant PostRevocationEffect.variants)
    "post_revocation_effect" members
  return ⟨revocable, revocationEndpoint, postRevocationEffect⟩

/-- The fields of a time window. -/
def RawTimeWindow.shape : Shape where
  fields := ["not_before", "not_after"]
  denyUnknownFields := true
  defaulted := 0

/-- The only field of the constraints of a grant. -/
def RawGlobalConstraints.shape : Shape where
  fields := ["time"]
  denyUnknownFields := true
  defaulted := 0

/-- The fields of a grant in the order of their declaration. The profile alone has a default, so
an array may leave it out. -/
def RawTrustGrantDocument.shape : Shape where
  fields := ["trustgrant_id", "version", "grant_series_id", "revision", "supersedes",
    "supersession_policy", "issuer_authority", "origin_authority", "active_owning_authority",
    "key_id", "target_scope", "capabilities", "default_audience_scope", "resource_scope",
    "global_constraints", "revocation", "issued_at", "signature", "issuer_principal",
    "interoperability_profile"]
  denyUnknownFields := true
  defaulted := 1

/-- The fields of a selector of a transition. -/
def RawOwnershipTransitionSelector.shape : Shape where
  fields := ["kind", "all", "values", "expressions"]
  denyUnknownFields := true
  defaulted := 0

/-- The derived reader of selectors of a transition. -/
def RawOwnershipTransitionSelector.fromTree (tree : JsonTree) :
    Option RawOwnershipTransitionSelector := do
  let members ← RawOwnershipTransitionSelector.shape.members tree
  let kind ← requiredField readString "kind" members
  let all ← requiredField readBool "all" members
  let values ← optionalField (readVec readString) "values" members
  let expressions ← optionalField (readVec readString) "expressions" members
  return ⟨kind, all, values, expressions⟩

/-- The fields of a resource type of a transition, which hands over resources and narrows
nothing. -/
def RawOwnershipTransitionResourceType.shape : Shape where
  fields := ["all", "allow", "deny"]
  denyUnknownFields := true
  defaulted := 0

/-- The derived reader of resource types of a transition. -/
def RawOwnershipTransitionResourceType.fromTree (tree : JsonTree) :
    Option RawOwnershipTransitionResourceType := do
  let members ← RawOwnershipTransitionResourceType.shape.members tree
  let all ← requiredField readBool "all" members
  let allow ← optionalField (readVec RawOwnershipTransitionSelector.fromTree) "allow" members
  let deny ← optionalField (readVec RawOwnershipTransitionSelector.fromTree) "deny" members
  return ⟨all, allow, deny⟩

/-- The only field of the scope of a transition. -/
def RawOwnershipTransitionResourceScope.shape : Shape where
  fields := ["types"]
  denyUnknownFields := true
  defaulted := 0

/-- The derived reader of the scope of a transition; of types with one name the last is kept. -/
def RawOwnershipTransitionResourceScope.fromTree (tree : JsonTree) :
    Option RawOwnershipTransitionResourceScope := do
  let members ← RawOwnershipTransitionResourceScope.shape.members tree
  let types ← requiredField (readMap Utf16Key.mk RawOwnershipTransitionResourceType.fromTree)
    "types" members
  return ⟨types⟩

/-- The fields of the window of a transition. -/
def RawOwnershipTransitionTimeWindow.shape : Shape where
  fields := ["not_before", "not_after"]
  denyUnknownFields := true
  defaulted := 0

/-- The only field of the constraints of a transition. -/
def RawOwnershipTransitionGlobalConstraints.shape : Shape where
  fields := ["time"]
  denyUnknownFields := true
  defaulted := 0

/-- The fields of the signature of the predecessor. -/
def RawOwnershipTransitionSignature.shape : Shape where
  fields := ["key_id", "signature"]
  denyUnknownFields := true
  defaulted := 0

/-- The derived reader of the signature of the predecessor. -/
def RawOwnershipTransitionSignature.fromTree (tree : JsonTree) :
    Option RawOwnershipTransitionSignature := do
  let members ← RawOwnershipTransitionSignature.shape.members tree
  let keyId ← requiredField readString "key_id" members
  let signature ← requiredField readString "signature" members
  return ⟨keyId, signature⟩

/-- The fields of the acceptance of the successor. -/
def RawOwnershipTransitionAcceptance.shape : Shape where
  fields := ["accepted_at", "key_id", "signature"]
  denyUnknownFields := true
  defaulted := 0

/-- The fields of a transition in the order of their declaration. -/
def RawOwnershipTransitionDocument.shape : Shape where
  fields := ["transition_id", "version", "transition_series_id", "revision",
    "supersedes_transition_id", "origin_authority", "from_authority", "to_authority",
    "canonical_resource_scope", "global_constraints", "effective_at", "predecessor_signature",
    "successor_acceptance"]
  denyUnknownFields := true
  defaulted := 0

section TimeStamps

variable (readDateTime : String → Option DateTime)

/-- The derived reader of time windows; the ends are not compared. -/
def RawTimeWindow.fromTree (tree : JsonTree) : Option RawTimeWindow := do
  let members ← RawTimeWindow.shape.members tree
  let notBefore ← requiredField (readText readDateTime) "not_before" members
  let notAfter ← requiredField (readText readDateTime) "not_after" members
  return ⟨notBefore, notAfter⟩

/-- The derived reader of the constraints of a grant. Constraints without a window are read. -/
def RawGlobalConstraints.fromTree (tree : JsonTree) : Option RawGlobalConstraints := do
  let members ← RawGlobalConstraints.shape.members tree
  let time ← optionalField (RawTimeWindow.fromTree readDateTime) "time" members
  return ⟨time⟩

/-- The derived reader of grants. Identifiers and authorities stay texts, which validation
checks. -/
def RawTrustGrantDocument.fromTree (tree : JsonTree) : Option RawTrustGrantDocument := do
  let members ← RawTrustGrantDocument.shape.members tree
  let trustgrantId ← requiredField readString "trustgrant_id" members
  let version ← requiredField readU8 "version" members
  let grantSeriesId ← requiredField readString "grant_series_id" members
  let revision ← requiredField readU64 "revision" members
  let supersedes ← optionalField readString "supersedes" members
  let supersessionPolicy ← requiredField (readVariant RawSupersessionPolicy.variants)
    "supersession_policy" members
  let issuerAuthority ← requiredField readString "issuer_authority" members
  let originAuthority ← requiredField readString "origin_authority" members
  let activeOwningAuthority ← requiredField readString "active_owning_authority" members
  let keyId ← requiredField readString "key_id" members
  let targetScope ← requiredField RawScope.fromTree "target_scope" members
  let capabilities ← requiredField RawCapabilities.fromTree "capabilities" members
  let defaultAudienceScope ← optionalField (readVec RawAudienceEntry.fromTree)
    "default_audience_scope" members
  let resourceScope ← requiredField RawResourceScope.fromTree "resource_scope" members
  let globalConstraints ← optionalField (RawGlobalConstraints.fromTree readDateTime)
    "global_constraints" members
  let revocation ← optionalField RawRevocation.fromTree "revocation" members
  let issuedAt ← requiredField (readText readDateTime) "issued_at" members
  let signature ← requiredField readString "signature" members
  let issuerPrincipal ← optionalField RawPrincipal.fromTree "issuer_principal" members
  let interoperabilityProfile ← optionalField InteroperabilityProfile.fromTree
    "interoperability_profile" members
  return ⟨trustgrantId, version, grantSeriesId, revision, supersedes, supersessionPolicy,
    issuerAuthority, originAuthority, activeOwningAuthority, keyId, targetScope, capabilities,
    defaultAudienceScope, resourceScope, globalConstraints, revocation, issuedAt, signature,
    issuerPrincipal, interoperabilityProfile⟩

/-- The derived reader of the window of a transition. -/
def RawOwnershipTransitionTimeWindow.fromTree (tree : JsonTree) :
    Option RawOwnershipTransitionTimeWindow := do
  let members ← RawOwnershipTransitionTimeWindow.shape.members tree
  let notBefore ← requiredField (readText readDateTime) "not_before" members
  let notAfter ← requiredField (readText readDateTime) "not_after" members
  return ⟨notBefore, notAfter⟩

/-- The derived reader of the constraints of a transition. -/
def RawOwnershipTransitionGlobalConstraints.fromTree (tree : JsonTree) :
    Option RawOwnershipTransitionGlobalConstraints := do
  let members ← RawOwnershipTransitionGlobalConstraints.shape.members tree
  let time ← optionalField (RawOwnershipTransitionTimeWindow.fromTree readDateTime) "time" members
  return ⟨time⟩

/-- The derived reader of the acceptance of the successor. -/
def RawOwnershipTransitionAcceptance.fromTree (tree : JsonTree) :
    Option RawOwnershipTransitionAcceptance := do
  let members ← RawOwnershipTransitionAcceptance.shape.members tree
  let acceptedAt ← requiredField (readText readDateTime) "accepted_at" members
  let keyId ← requiredField readString "key_id" members
  let signature ← requiredField readString "signature" members
  return ⟨acceptedAt, keyId, signature⟩

/-- The derived reader of transitions. -/
def RawOwnershipTransitionDocument.fromTree (tree : JsonTree) :
    Option RawOwnershipTransitionDocument := do
  let members ← RawOwnershipTransitionDocument.shape.members tree
  let transitionId ← requiredField readString "transition_id" members
  let version ← requiredField readU8 "version" members
  let transitionSeriesId ← requiredField readString "transition_series_id" members
  let revision ← requiredField readU64 "revision" members
  let supersedesTransitionId ← optionalField readString "supersedes_transition_id" members
  let originAuthority ← requiredField readString "origin_authority" members
  let fromAuthority ← requiredField readString "from_authority" members
  let toAuthority ← requiredField readString "to_authority" members
  let canonicalResourceScope ← requiredField RawOwnershipTransitionResourceScope.fromTree
    "canonical_resource_scope" members
  let globalConstraints ← optionalField
    (RawOwnershipTransitionGlobalConstraints.fromTree readDateTime) "global_constraints" members
  let effectiveAt ← requiredField (readText readDateTime) "effective_at" members
  let predecessorSignature ← requiredField RawOwnershipTransitionSignature.fromTree
    "predecessor_signature" members
  let successorAcceptance ← requiredField (RawOwnershipTransitionAcceptance.fromTree readDateTime)
    "successor_acceptance" members
  return ⟨transitionId, version, transitionSeriesId, revision, supersedesTransitionId,
    originAuthority, fromAuthority, toAuthority, canonicalResourceScope, globalConstraints,
    effectiveAt, predecessorSignature, successorAcceptance⟩

variable (parse : String → Option JsonTree)

/-- `serde_json::from_str` into a grant. The syntax of JSON is given as a function. -/
def RawTrustGrantDocument.fromStr (json : String) : Option RawTrustGrantDocument :=
  (parse json).bind (RawTrustGrantDocument.fromTree readDateTime)

/-- `serde_json::from_str` into an ownership transition. -/
def RawOwnershipTransitionDocument.fromStr (json : String) :
    Option RawOwnershipTransitionDocument :=
  (parse json).bind (RawOwnershipTransitionDocument.fromTree readDateTime)

end TimeStamps

/-- `RawOwnershipTransitionDocument::parse_json_str` -/
def RawOwnershipTransitionDocument.parseJsonStr
    (fromStr : String → Option RawOwnershipTransitionDocument) (json : String) :
    Except TrustGrantError RawOwnershipTransitionDocument := do
  ensureJsonSize "ownership_transition" (Text.len json)
    maxOwnershipTransitionJsonBytes
  Results.okOr (fromStr json) .invalidOwnershipTransitionDocument

end TrustGrant
