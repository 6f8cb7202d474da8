import TrustGrant.Document.Raw
import TrustGrant.Error.Errors
import TrustGrant.Rust.Json

/-!
# Canonical bytes of a document

The signed payload is the wire document as JSON without white space, with its keys in the
order of RFC 8785. Each writer of the source appends to a buffer and cannot fail on it, so
a writer is the text it appends. The signature is left out, and so is every field that no
writer names.

The order of the members is thus a fact about the texts of the writers, and so is the set of
fields that a signature covers. Both are studied in later modules.
-/

namespace TrustGrant

open Rust Rust.Json Library Library.PrefixCode

/-- `write_null` -/
def writeNull : List Char := ['n', 'u', 'l', 'l']

/-- `write_bool`: the two literals. -/
def writeBool : Bool → List Char
  | true => ['t', 'r', 'u', 'e']
  | false => ['f', 'a', 'l', 's', 'e']

/-- `write_u64`: decimal digits without leading zeros, as the itoa library prints them. -/
def writeU64 (value : UInt64) : List Char := Decimal.digits value.toNat

/-- The digits that `write_u8_field` prints. -/
def writeU8 (value : UInt8) : List Char := Decimal.digits value.toNat

/-- The loops of the source over the items of an array, with a comma before each but the
first. -/
def writeArray {α : Type} (write : α → List Char) (items : List α) : List Char :=
  '[' :: (separated ',' write items ++ [']'])

/-- `write_field_name`: the name is escaped as every string is, although no name of the format
needs it. -/
def writeFieldName (fieldName : String) : List Char := writeJsonString fieldName ++ [':']

/-- A field: its name, then its value. -/
def writeField {α : Type} (write : α → List Char) (fieldName : String) (value : α) :
    List Char :=
  writeFieldName fieldName ++ write value

/-- `write_json_string_field` -/
def writeJsonStringField : String → String → List Char := writeField writeJsonString

/-- `write_optional_string_field`: null where there is none. -/
def writeOptionalStringField : String → Option String → List Char :=
  writeField (optional writeNull writeJsonString)

/-- `write_bool_field` -/
def writeBoolField : String → Bool → List Char := writeField writeBool

/-- `write_optional_bool_field` -/
def writeOptionalBoolField : String → Option Bool → List Char :=
  writeField (optional writeNull writeBool)

/-- `write_u8_field` -/
def writeU8Field : String → UInt8 → List Char := writeField writeU8

/-- `write_u64_field` -/
def writeU64Field : String → UInt64 → List Char := writeField writeU64

/-- `write_optional_u64_field` -/
def writeOptionalU64Field : String → Option UInt64 → List Char :=
  writeField (optional writeNull writeU64)

/-- `write_datetime_field`: the text that chrono prints with as many digits of the fraction as it
needs. -/
def writeDatetimeField : String → DateTime → List Char := writeField writeDateTime

/-- `write_string_array_field`: an absent list is null and not an empty array. -/
def writeStringArrayField : String → Option (List String) → List Char :=
  writeField (optional writeNull (writeArray writeJsonString))

/-- `write_selector`: the members in the order of their names. -/
def writeSelector (selector : RawSelector) : List Char :=
  openBrace :: writeBoolField "all" selector.all ++
    ',' :: writeStringArrayField "expressions" selector.expressions ++
    ',' :: writeJsonStringField "kind" selector.kind ++
    ',' :: writeStringArrayField "values" selector.values ++ [closeBrace]

/-- `write_selectors_field` -/
def writeSelectorsField : String → Option (List RawSelector) → List Char :=
  writeField (optional writeNull (writeArray writeSelector))

/-- `write_scope` -/
def writeScope (scope : RawScope) : List Char :=
  openBrace :: writeBoolField "all" scope.all ++
    ',' :: writeSelectorsField "allow" scope.allow ++
    ',' :: writeSelectorsField "deny" scope.deny ++ [closeBrace]

/-- `write_scope_field` -/
def writeScopeField : String → RawScope → List Char := writeField writeScope

/-- `write_optional_scope_field` -/
def writeOptionalScopeField : String → Option RawScope → List Char :=
  writeField (optional writeNull writeScope)

/-- The object that `write_capabilities_field` writes. -/
def writeCapabilities (capabilities : RawCapabilities) : List Char :=
  openBrace :: writeBoolField "mint" capabilities.mint ++
    ',' :: writeBoolField "recognize" capabilities.recognize ++ [closeBrace]

/-- `write_capabilities_field` -/
def writeCapabilitiesField : String → RawCapabilities → List Char := writeField writeCapabilities

/-- `write_audience_entry`: the scope of principals is written as null where there is none. -/
def writeAudienceEntry (entry : RawAudienceEntry) : List Char :=
  openBrace :: writeJsonStringField "authority_id" entry.authorityId ++
    ',' :: writeOptionalScopeField "principal_scope" entry.principalScope ++
    ',' :: writeScopeField "scope" entry.scope ++ [closeBrace]

/-- `write_audience_entries`: the value alone, which both places that hold an audience share. -/
def writeAudienceEntries : Option (List RawAudienceEntry) → List Char :=
  optional writeNull (writeArray writeAudienceEntry)

/-- `write_audience_scope_field` -/
def writeAudienceScopeField : String → Option (List RawAudienceEntry) → List Char :=
  writeField writeAudienceEntries

/-- The object that `write_type_capabilities_field` writes: a capability that is left to the
grant is null. -/
def writeTypeCapabilities (capabilities : RawTypeCapabilities) : List Char :=
  openBrace :: writeOptionalBoolField "mint" capabilities.mint ++
    ',' :: writeOptionalBoolField "recognize" capabilities.recognize ++ [closeBrace]

/-- `write_type_capabilities_field` -/
def writeTypeCapabilitiesField : String → RawTypeCapabilities → List Char :=
  writeField writeTypeCapabilities

/-- The object that `write_minting_constraints_field` writes: the limit for each principal
first. -/
def writeMintingConstraints (constraints : RawMintingConstraints) : List Char :=
  openBrace :: writeOptionalU64Field "max_per_user" constraints.maxPerUser ++
    ',' :: writeOptionalU64Field "max_total" constraints.maxTotal ++ [closeBrace]

/-- `write_minting_constraints_field` -/
def writeMintingConstraintsField : String → RawMintingConstraints → List Char :=
  writeField writeMintingConstraints

/-- The object that `write_type_constraints_field` writes: the audience before the limits. -/
def writeTypeConstraints (constraints : RawTypeConstraints) : List Char :=
  openBrace :: writeAudienceScopeField "audience_scope" constraints.audienceScope ++
    ',' :: writeMintingConstraintsField "minting" constraints.minting ++ [closeBrace]

/-- `write_type_constraints_field` -/
def writeTypeConstraintsField : String → RawTypeConstraints → List Char :=
  writeField writeTypeConstraints

/-- The object that `write_operation_scope_field` writes where there is a scope. -/
def writeOperationScope (operationScope : RawOperationScope) : List Char :=
  openBrace :: writeStringArrayField "allow" operationScope.allow ++
    ',' :: writeStringArrayField "deny" operationScope.deny ++ [closeBrace]

/-- `write_operation_scope_field` -/
def writeOperationScopeField : String → Option RawOperationScope → List Char :=
  writeField (optional writeNull writeOperationScope)

/-- `write_resource_type`: the two parts of its scope stand apart, as the order of names asks. -/
def writeResourceType (resourceType : RawResourceType) : List Char :=
  openBrace :: writeBoolField "all" resourceType.all ++
    ',' :: writeSelectorsField "allow" resourceType.allow ++
    ',' :: writeTypeCapabilitiesField "capabilities" resourceType.capabilities ++
    ',' :: writeTypeConstraintsField "constraints" resourceType.constraints ++
    ',' :: writeSelectorsField "deny" resourceType.deny ++
    ',' :: writeOperationScopeField "operations" resourceType.operations ++ [closeBrace]

/-- One entry of the type map: its name, a colon and the type. -/
def writeResourceTypeEntry (entry : Utf16Key × RawResourceType) : List Char :=
  writeJsonString entry.1.asStr ++ ':' :: writeResourceType entry.2

/-- The object that `write_resource_type_map_field` writes: the entries in the order of the map,
which compares names by their UTF-16 code units. -/
def writeResourceTypeMap (types : SortedMap Utf16Key RawResourceType) : List Char :=
  openBrace :: (separated ',' writeResourceTypeEntry types.entries ++ [closeBrace])

/-- The object that `write_resource_scope_field` writes. -/
def writeResourceScope (resourceScope : RawResourceScope) : List Char :=
  openBrace :: writeField writeResourceTypeMap "types" resourceScope.types ++ [closeBrace]

/-- `write_resource_scope_field` -/
def writeResourceScopeField : String → RawResourceScope → List Char :=
  writeField writeResourceScope

/-- The object that `write_time_window_field` writes where there is a window: the end before the
beginning. -/
def writeTimeWindow (timeWindow : RawTimeWindow) : List Char :=
  openBrace :: writeDatetimeField "not_after" timeWindow.notAfter ++
    ',' :: writeDatetimeField "not_before" timeWindow.notBefore ++ [closeBrace]

/-- `write_time_window_field` -/
def writeTimeWindowField : String → Option RawTimeWindow → List Char :=
  writeField (optional writeNull writeTimeWindow)

/-- The object that `write_global_constraints_field` writes where there are constraints. -/
def writeGlobalConstraints (constraints : RawGlobalConstraints) : List Char :=
  openBrace :: writeTimeWindowField "time" constraints.time ++ [closeBrace]

/-- `write_global_constraints_field` -/
def writeGlobalConstraintsField : String → Option RawGlobalConstraints → List Char :=
  writeField (optional writeNull writeGlobalConstraints)

/-- The wire name of a post-revocation effect. -/
def PostRevocationEffect.wireName : PostRevocationEffect → String
  | .blockAll => "block_all"
  | .blockMintingOnly => "block_minting_only"

/-- The object that `write_revocation_field` writes where there is a policy. -/
def writeRevocation (revocation : RawRevocation) : List Char :=
  openBrace ::
    writeJsonStringField "post_revocation_effect" revocation.postRevocationEffect.wireName ++
    ',' :: writeBoolField "revocable" revocation.revocable ++
    ',' :: writeJsonStringField "revocation_endpoint" revocation.revocationEndpoint ++
    [closeBrace]

/-- `write_revocation_field` -/
def writeRevocationField : String → Option RawRevocation → List Char :=
  writeField (optional writeNull writeRevocation)

/-- The object that `write_principal_field` writes where a principal signed. -/
def writePrincipal (principal : RawPrincipal) : List Char :=
  openBrace :: writeJsonStringField "id" principal.id ++
    ',' :: writeJsonStringField "kind" principal.kind ++ [closeBrace]

/-- `write_principal_field` -/
def writePrincipalField : String → Option RawPrincipal → List Char :=
  writeField (optional writeNull writePrincipal)

/-- The name that `write_supersession_policy_field` writes. -/
def writeSupersessionPolicy (policy : RawSupersessionPolicy) : List Char :=
  writeJsonString policy.asStr

/-- `write_supersession_policy_field` -/
def writeSupersessionPolicyField : String → RawSupersessionPolicy → List Char :=
  writeField writeSupersessionPolicy

/-- The signed payload. The members are written in the order of RFC 8785; the signature and the
interoperability profile are not among them. -/
def writeTrustgrantDocument (rawDocument : RawTrustGrantDocument) : List Char :=
  openBrace :: writeJsonStringField "active_owning_authority" rawDocument.activeOwningAuthority ++
    ',' :: writeCapabilitiesField "capabilities" rawDocument.capabilities ++
    ',' :: writeAudienceScopeField "default_audience_scope" rawDocument.defaultAudienceScope ++
    ',' :: writeGlobalConstraintsField "global_constraints" rawDocument.globalConstraints ++
    ',' :: writeJsonStringField "grant_series_id" rawDocument.grantSeriesId ++
    ',' :: writeDatetimeField "issued_at" rawDocument.issuedAt ++
    ',' :: writeJsonStringField "issuer_authority" rawDocument.issuerAuthority ++
    ',' :: writePrincipalField "issuer_principal" rawDocument.issuerPrincipal ++
    ',' :: writeJsonStringField "key_id" rawDocument.keyId ++
    ',' :: writeJsonStringField "origin_authority" rawDocument.originAuthority ++
    ',' :: writeResourceScopeField "resource_scope" rawDocument.resourceScope ++
    ',' :: writeU64Field "revision" rawDocument.revision ++
    ',' :: writeRevocationField "revocation" rawDocument.revocation ++
    ',' :: writeOptionalStringField "supersedes" rawDocument.supersedes ++
    ',' :: writeSupersessionPolicyField "supersession_policy" rawDocument.supersessionPolicy ++
    ',' :: writeScopeField "target_scope" rawDocument.targetScope ++
    ',' :: writeJsonStringField "trustgrant_id" rawDocument.trustgrantId ++
    ',' :: writeU8Field "version" rawDocument.version ++ [closeBrace]

/-- Canonical bytes for signature verification. -/
structure CanonicalTrustGrantBytes where
  bytes : ByteArray

/-- `canonicalize_json_v0`: the UTF-8 encoding of the signed payload. It never fails. -/
def canonicalizeJsonV0 (rawDocument : RawTrustGrantDocument) :
    Except TrustGrantError CanonicalTrustGrantBytes :=
  .ok ⟨(String.ofList (writeTrustgrantDocument rawDocument)).toUTF8⟩

/-- Produces deterministic signable bytes for one raw document. -/
def canonicalizeTrustgrant (rawDocument : RawTrustGrantDocument) :
    CanonicalizationProfile → Except TrustGrantError CanonicalTrustGrantBytes
  | .rfc8785 => canonicalizeJsonV0 rawDocument

end TrustGrant
