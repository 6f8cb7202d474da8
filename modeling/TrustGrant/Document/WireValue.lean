import TrustGrant.Document.OwnershipTransition
import TrustGrant.Library.CanonicalJson

/-!
# The JSON value of a wire document

What serde derives for the wire types: an object with the fields in the order of their
declaration. An absent value is null, except for the interoperability profile, which is left
out. Time stamps are strings.

The value of each type is defined beside the order of its fields, so that the writer of JSON
texts and the canonical writer can be compared with one and the same value. A field is found
in it by its name.
-/

namespace TrustGrant

open Rust Library

/-- The value of an optional field. An absent one is null, as serde writes it for fields that are
not skipped. -/
def optionValue {α : Type} (value : α → Json) : Option α → Json
  | none => .null
  | some inner => value inner

/-- The value of a sequence. Its items stand in their order. -/
def listValue {α : Type} (value : α → Json) (items : List α) : Json := .array (items.map value)

/-- A counter or a limit. It is a JSON number without a fraction. -/
def u64Value (value : UInt64) : Json := .number value.toNat

/-- An optional list of strings. Both an absent list and an empty one occur, and they are written
differently. -/
def stringsValue : Option (List String) → Json := optionValue (listValue .string)

/-- A time stamp as the text that chrono prints. It is RFC 3339 with as many digits of the second
as are needed. -/
def dateTimeValue (time : DateTime) : Json := .string (String.ofList time.toRfc3339)

/-- A policy by its wire name. The type is an enumeration without data, which serde writes as a
string. -/
def RawSupersessionPolicy.toValue : RawSupersessionPolicy → Json
  | .coexist => .string "coexist"
  | .supersedePrevious => .string "supersede_previous"

/-- A principal, its kind first. Both fields are texts that nothing has checked yet. -/
def RawPrincipal.toValue (principal : RawPrincipal) : Json :=
  .object [("kind", .string principal.kind), ("id", .string principal.id)]

/-- A selector. The order of its fields is that of their declaration and not the one that is
signed. -/
def RawSelector.toValue (selector : RawSelector) : Json :=
  .object [("kind", .string selector.kind), ("all", .bool selector.all),
    ("values", stringsValue selector.values), ("expressions", stringsValue selector.expressions)]

/-- An optional list of selectors, null when it is absent. Allow and deny lists of every scope
have this form. -/
def selectorsValue : Option (List RawSelector) → Json :=
  optionValue (listValue RawSelector.toValue)

/-- A scope with both of its lists. The flag comes before the lists. -/
def RawScope.toValue (scope : RawScope) : Json :=
  .object [("all", .bool scope.all), ("allow", selectorsValue scope.allow),
    ("deny", selectorsValue scope.deny)]

/-- The capabilities of a grant. Both are written as booleans, whatever they are. -/
def RawCapabilities.toValue (capabilities : RawCapabilities) : Json :=
  .object [("recognize", .bool capabilities.recognize), ("mint", .bool capabilities.mint)]

/-- An audience entry with null for an absent scope of principals. The scope of the authority
itself is always there. -/
def RawAudienceEntry.toValue (entry : RawAudienceEntry) : Json :=
  .object [("authority_id", .string entry.authorityId), ("scope", entry.scope.toValue),
    ("principal_scope", optionValue RawScope.toValue entry.principalScope)]

/-- An optional audience. The default audience and the one of a type share this form. -/
def audienceValue : Option (List RawAudienceEntry) → Json :=
  optionValue (listValue RawAudienceEntry.toValue)

/-- The capabilities of a type; null leaves one to the grant. So three values are told apart. -/
def RawTypeCapabilities.toValue (capabilities : RawTypeCapabilities) : Json :=
  .object [("recognize", optionValue .bool capabilities.recognize),
    ("mint", optionValue .bool capabilities.mint)]

/-- The minting limits of a type; null is no limit. A limit of zero is written as zero. -/
def RawMintingConstraints.toValue (constraints : RawMintingConstraints) : Json :=
  .object [("max_total", optionValue u64Value constraints.maxTotal),
    ("max_per_user", optionValue u64Value constraints.maxPerUser)]

/-- The constraints of a type. The limits are an object also when none is set. -/
def RawTypeConstraints.toValue (constraints : RawTypeConstraints) : Json :=
  .object [("minting", constraints.minting.toValue),
    ("audience_scope", audienceValue constraints.audienceScope)]

/-- A scope of operations. Its lists hold names and may be null. -/
def RawOperationScope.toValue (scope : RawOperationScope) : Json :=
  .object [("allow", stringsValue scope.allow), ("deny", stringsValue scope.deny)]

/-- A resource type with all that it narrows. The scope of its resources stands in its own
fields. -/
def RawResourceType.toValue (resourceType : RawResourceType) : Json :=
  .object [("all", .bool resourceType.all), ("allow", selectorsValue resourceType.allow),
    ("deny", selectorsValue resourceType.deny),
    ("capabilities", resourceType.capabilities.toValue),
    ("constraints", resourceType.constraints.toValue),
    ("operations", optionValue RawOperationScope.toValue resourceType.operations)]

/-- The map of types in the order of its keys. The names of the members are the keys as they are
spelled. -/
def RawResourceScope.toValue (scope : RawResourceScope) : Json :=
  .object [("types", .object (scope.types.entries.map fun entry =>
    (entry.1.asStr, entry.2.toValue)))]

/-- A time window as two texts. The ends may be in either order at this stage. -/
def RawTimeWindow.toValue (window : RawTimeWindow) : Json :=
  .object [("not_before", dateTimeValue window.notBefore),
    ("not_after", dateTimeValue window.notAfter)]

/-- The constraints of a grant. They hold an optional window and nothing else. -/
def RawGlobalConstraints.toValue (constraints : RawGlobalConstraints) : Json :=
  .object [("time", optionValue RawTimeWindow.toValue constraints.time)]

/-- An interoperability profile. The name is a text and the version a number. -/
def InteroperabilityProfile.toValue (profile : InteroperabilityProfile) : Json :=
  .object [("name", .string profile.name), ("version", u64Value profile.version)]

/-- An effect by its wire name. The type has a default, which plays no part in writing. -/
def PostRevocationEffect.toValue : PostRevocationEffect → Json
  | .blockMintingOnly => .string "block_minting_only"
  | .blockAll => .string "block_all"

/-- A revocation policy. All three fields are written, the effect last. -/
def RawRevocation.toValue (revocation : RawRevocation) : Json :=
  .object [("revocable", .bool revocation.revocable),
    ("revocation_endpoint", .string revocation.revocationEndpoint),
    ("post_revocation_effect", revocation.postRevocationEffect.toValue)]

/-- The field that is left out when it is absent. It is a list of at most one member, to be put
behind the others. -/
def profileMember : Option InteroperabilityProfile → List (String × Json)
  | none => []
  | some profile => [("interoperability_profile", profile.toValue)]

/-- `serde_json::to_value` of a wire document. The members are in the order of the fields, which
is not the order in which the canonical writer puts them. -/
def RawTrustGrantDocument.toValue (document : RawTrustGrantDocument) : Json :=
  .object ([("trustgrant_id", .string document.trustgrantId),
    ("version", .number document.version.toNat),
    ("grant_series_id", .string document.grantSeriesId),
    ("revision", u64Value document.revision),
    ("supersedes", optionValue .string document.supersedes),
    ("supersession_policy", document.supersessionPolicy.toValue),
    ("issuer_authority", .string document.issuerAuthority),
    ("origin_authority", .string document.originAuthority),
    ("active_owning_authority", .string document.activeOwningAuthority),
    ("key_id", .string document.keyId),
    ("target_scope", document.targetScope.toValue),
    ("capabilities", document.capabilities.toValue),
    ("default_audience_scope", audienceValue document.defaultAudienceScope),
    ("resource_scope", document.resourceScope.toValue),
    ("global_constraints", optionValue RawGlobalConstraints.toValue document.globalConstraints),
    ("revocation", optionValue RawRevocation.toValue document.revocation),
    ("issued_at", dateTimeValue document.issuedAt),
    ("signature", .string document.signature),
    ("issuer_principal", optionValue RawPrincipal.toValue document.issuerPrincipal)] ++
      profileMember document.interoperabilityProfile)

/-- A selector of a transition. It has the fields of a selector of a grant, in a type of its
own. -/
def RawOwnershipTransitionSelector.toValue (selector : RawOwnershipTransitionSelector) : Json :=
  .object [("kind", .string selector.kind), ("all", .bool selector.all),
    ("values", stringsValue selector.values), ("expressions", stringsValue selector.expressions)]

/-- A resource type of a transition, which is a scope. It has neither capabilities nor
constraints. -/
def RawOwnershipTransitionResourceType.toValue
    (resourceType : RawOwnershipTransitionResourceType) : Json :=
  .object [("all", .bool resourceType.all),
    ("allow", optionValue (listValue RawOwnershipTransitionSelector.toValue) resourceType.allow),
    ("deny", optionValue (listValue RawOwnershipTransitionSelector.toValue) resourceType.deny)]

/-- The types of a transition by their names, in the order of the map. The keys are those of
grants. -/
def RawOwnershipTransitionResourceScope.toValue (scope : RawOwnershipTransitionResourceScope) :
    Json :=
  .object [("types", .object (scope.types.entries.map fun entry =>
    (entry.1.asStr, entry.2.toValue)))]

/-- The window of a transition. Its type differs from that of grants, its form does not. -/
def RawOwnershipTransitionTimeWindow.toValue (window : RawOwnershipTransitionTimeWindow) : Json :=
  .object [("not_before", dateTimeValue window.notBefore),
    ("not_after", dateTimeValue window.notAfter)]

/-- The constraints of a transition. They hold an optional window, like those of a grant. -/
def RawOwnershipTransitionGlobalConstraints.toValue
    (constraints : RawOwnershipTransitionGlobalConstraints) : Json :=
  .object [("time", optionValue RawOwnershipTransitionTimeWindow.toValue constraints.time)]

/-- The signature of the predecessor. It names the key that made it. -/
def RawOwnershipTransitionSignature.toValue (proof : RawOwnershipTransitionSignature) : Json :=
  .object [("key_id", .string proof.keyId), ("signature", .string proof.signature)]

/-- The acceptance of the successor. It has a time besides the key and the signature. -/
def RawOwnershipTransitionAcceptance.toValue (acceptance : RawOwnershipTransitionAcceptance) :
    Json :=
  .object [("accepted_at", dateTimeValue acceptance.acceptedAt),
    ("key_id", .string acceptance.keyId), ("signature", .string acceptance.signature)]

/-- `serde_json::to_value` of the wire document of a transition. Both signature sections are
members, as this is what is handed on and not what is signed. -/
def RawOwnershipTransitionDocument.toValue (document : RawOwnershipTransitionDocument) : Json :=
  .object [("transition_id", .string document.transitionId),
    ("version", .number document.version.toNat),
    ("transition_series_id", .string document.transitionSeriesId),
    ("revision", u64Value document.revision),
    ("supersedes_transition_id", optionValue .string document.supersedesTransitionId),
    ("origin_authority", .string document.originAuthority),
    ("from_authority", .string document.fromAuthority),
    ("to_authority", .string document.toAuthority),
    ("canonical_resource_scope", document.canonicalResourceScope.toValue),
    ("global_constraints",
      optionValue RawOwnershipTransitionGlobalConstraints.toValue document.globalConstraints),
    ("effective_at", dateTimeValue document.effectiveAt),
    ("predecessor_signature", document.predecessorSignature.toValue),
    ("successor_acceptance", document.successorAcceptance.toValue)]

end TrustGrant
