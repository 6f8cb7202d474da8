import TrustGrant.Library.JsonSchema

/-!
# The published schemas

The machine-readable contracts of grants and of ownership transitions. Each definition that
a contract names is a schema here, and a reference to it is its use.

The schemas are values of the type of schemas, written as in the published files, keyword by
keyword. Titles and descriptions admit everything and are left out.
-/

namespace TrustGrant

open Library

/-- A letter of `[0-9a-f]`. -/
def isLowerHex (c : Char) : Bool := c.isDigit || (decide ('a' ≤ c) && decide (c ≤ 'f'))

/-- Five groups of eight, four, four, four and twelve hexadecimal digits. -/
def isUuidText (text : List Char) : Bool :=
  decide (text.length = 36) && text.zipIdx.all fun letter =>
    if letter.2 ∈ [8, 13, 18, 23] then letter.1 = '-' else isLowerHex letter.1

/-- The marker of the identifier and a UUID. -/
def isMarkedUuid (marker text : String) : Bool :=
  marker.toList.isPrefixOf text.toList && isUuidText (text.toList.drop marker.toList.length)

/-- An identifier of one sort: a string that is its marker and a UUID in lower case. -/
def identifier (marker : String) : Schema :=
  .allOf [.type [.string], .pattern (isMarkedUuid marker)]

/-- The number of the protocol version. -/
def versionZero : Schema := .allOf [.type [.integer], .const (.natural 0)]

/-- Revisions count from one. -/
def positiveRevision : Schema := .allOf [.type [.integer], .minimum 1]

/-- The time window of both contracts. -/
def timeWindow : Schema :=
  .object ["not_before", "not_after"] [("not_before", .timeStamp), ("not_after", .timeStamp)]

/-- The global constraints of both contracts. -/
def globalConstraints : Schema := .object [] [("time", timeWindow)]

namespace PublishedSchema

/-- A selector: everything of its kind, or a list that is not empty. The alternatives of the
published file are told apart by the value of one member. -/
def selector : Schema :=
  .allOf [.object ["kind", "all", "values", "expressions"]
      [("kind", .someText), ("all", .boolean), ("values", .nullable (.someList .string)),
        ("expressions", .nullable (.someList .string))],
    .ifThen (.properties [("all", .const (.bool true))] .anything)
      (.properties [("values", .type [.null]), ("expressions", .type [.null])] .anything),
    .ifThen (.properties [("all", .const (.bool false))] .anything)
      (.anyOf [.properties [("values", .type [.array])] .anything,
        .properties [("expressions", .type [.array])] .anything])]

/-- A scope: everything, or an allow list that is not empty. -/
def scope : Schema :=
  .allOf [.object ["all"] [("all", .boolean), ("allow", .nullable (.someList selector)),
      ("deny", .nullable (.someList selector))],
    .ifThen (.properties [("all", .const (.bool true))] .anything)
      (.properties [("allow", .type [.null])] .anything),
    .ifThen (.properties [("all", .const (.bool false))] .anything)
      (.properties [("allow", .type [.array])] .anything)]

/-- The capabilities of a grant, both of them required. -/
def capabilities : Schema :=
  .object ["recognize", "mint"] [("recognize", .boolean), ("mint", .boolean)]

/-- An audience entry with an optional scope of principals. -/
def audienceEntry : Schema :=
  .object ["authority_id", "scope"] [("authority_id", .someText), ("scope", scope),
    ("principal_scope", .nullable scope)]

/-- The capabilities of a type, both of which may be left out. -/
def typeCapabilities : Schema :=
  .object ["recognize", "mint"]
    [("recognize", .type [.boolean, .null]), ("mint", .type [.boolean, .null])]

/-- A limit on minting, or none. -/
def limit : Schema := .allOf [.type [.integer, .null], .minimum 0]

/-- The limits of a type. -/
def minting : Schema := .object [] [("max_total", limit), ("max_per_user", limit)]

/-- The constraints of a type. -/
def typeConstraints : Schema :=
  .object ["minting"] [("minting", minting),
    ("audience_scope", .nullable (.someList audienceEntry))]

/-- The operations of a type: either list is absent or not empty. -/
def operationScope : Schema :=
  .object ["allow", "deny"] [("allow", .nullable (.someList .someText)),
    ("deny", .nullable (.someList .someText))]

/-- A resource type. -/
def resourceType : Schema :=
  .object ["all", "allow", "deny", "capabilities", "constraints"]
    [("all", .boolean), ("allow", .nullable (.someList selector)),
      ("deny", .nullable (.someList selector)), ("capabilities", typeCapabilities),
      ("constraints", typeConstraints), ("operations", .nullable operationScope)]

/-- An object of types under any names. -/
def types (type : Schema) : Schema := .allOf [.type [.object], .properties [] type]

/-- The types of a grant. -/
def resourceScope : Schema := .object ["types"] [("types", types resourceType)]

/-- The default of the effect is `block_all`. A default is an annotation that admits nothing
more. -/
def revocation : Schema :=
  .object ["revocable", "revocation_endpoint"] [("revocable", .boolean),
    ("revocation_endpoint", .string),
    ("post_revocation_effect", .oneText ["block_all", "block_minting_only"])]

/-- A principal by two texts that are not empty. -/
def principal : Schema := .object ["kind", "id"] [("kind", .someText), ("id", .someText)]

/-- An interoperability profile. -/
def interoperabilityProfile : Schema :=
  .object ["name", "version"] [("name", .string), ("version", .integer)]

/-- The contract of a grant. -/
def document : Schema :=
  .object ["trustgrant_id", "version", "grant_series_id", "revision", "supersession_policy",
      "issuer_authority", "origin_authority", "active_owning_authority", "key_id",
      "target_scope", "capabilities", "resource_scope", "issued_at", "signature"]
    [("trustgrant_id", identifier "tg_"), ("version", versionZero),
      ("grant_series_id", identifier "tgs_"), ("revision", positiveRevision),
      ("supersedes", .nullable (identifier "tg_")),
      ("supersession_policy", .oneText ["coexist", "supersede_previous"]),
      ("issuer_authority", .someText), ("origin_authority", .someText),
      ("active_owning_authority", .someText), ("target_scope", scope),
      ("capabilities", capabilities),
      ("default_audience_scope", .nullable (.someList audienceEntry)),
      ("resource_scope", resourceScope), ("global_constraints", globalConstraints),
      ("revocation", revocation), ("issued_at", .timeStamp), ("signature", .someText),
      ("issuer_principal", .nullable principal), ("key_id", .someText),
      ("interoperability_profile", interoperabilityProfile)]

end PublishedSchema

namespace TransitionSchema

/-- A selector of a transition. -/
def transitionSelector : Schema :=
  .object ["kind", "all", "values"] [("kind", .someText), ("all", .boolean),
    ("values", .someList .string),
    ("expressions", .nullable (.allOf [.type [.array], .items .string]))]

/-- A resource type of a transition. -/
def transitionResourceType : Schema :=
  .object ["all", "allow", "deny"]
    [("all", .allOf [.type [.boolean], .const (.bool false)]),
      ("allow", .someList transitionSelector), ("deny", .type [.null])]

/-- The types that a transition hands over. -/
def canonicalResourceScope : Schema :=
  .object ["types"] [("types", PublishedSchema.types transitionResourceType)]

/-- The key and the signature of the predecessor. -/
def signatureProof : Schema :=
  .object ["key_id", "signature"] [("key_id", .someText), ("signature", .someText)]

/-- The time, the key and the signature of the successor. -/
def successorAcceptance : Schema :=
  .object ["accepted_at", "key_id", "signature"] [("accepted_at", .timeStamp),
    ("key_id", .someText), ("signature", .someText)]

/-- The contract of an ownership transition. -/
def document : Schema :=
  .object ["transition_id", "version", "transition_series_id", "revision", "origin_authority",
      "from_authority", "to_authority", "canonical_resource_scope", "effective_at",
      "predecessor_signature", "successor_acceptance"]
    [("transition_id", identifier "tgt_"), ("version", versionZero),
      ("transition_series_id", identifier "tgts_"), ("revision", positiveRevision),
      ("supersedes_transition_id", .nullable (identifier "tgt_")),
      ("origin_authority", .someText), ("from_authority", .someText),
      ("to_authority", .someText), ("canonical_resource_scope", canonicalResourceScope),
      ("global_constraints", globalConstraints), ("effective_at", .timeStamp),
      ("predecessor_signature", signatureProof), ("successor_acceptance", successorAcceptance)]

end TransitionSchema

end TrustGrant
