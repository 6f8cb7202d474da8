import TrustGrant.Document.OwnershipTransition
import TrustGrant.Verify.Canonicalize

/-!
# Canonical bytes of a transition

The predecessor signs the proposed transfer without the two signature sections. The
successor signs the same members together with the predecessor's signature and with the
time and the key of the acceptance.

The writers name their members in a fixed order, as the ones of grants do, and are
translated in the same way: a writer is the text it appends.
-/

namespace TrustGrant

open Rust Rust.Json Library Library.PrefixCode

namespace OwnershipTransition

/-- A selector of a transition, its members in the order of their names. -/
def writeSelector (selector : RawOwnershipTransitionSelector) : List Char :=
  openBrace :: writeBoolField "all" selector.all ++
    ',' :: writeStringArrayField "expressions" selector.expressions ++
    ',' :: writeJsonStringField "kind" selector.kind ++
    ',' :: writeStringArrayField "values" selector.values ++ [closeBrace]

/-- A field that may hold selectors. -/
def writeSelectorsField : String → Option (List RawOwnershipTransitionSelector) → List Char :=
  writeField (optional writeNull (writeArray writeSelector))

/-- A resource type of a transition. -/
def writeResourceType (resourceType : RawOwnershipTransitionResourceType) : List Char :=
  openBrace :: writeBoolField "all" resourceType.all ++
    ',' :: writeSelectorsField "allow" resourceType.allow ++
    ',' :: writeSelectorsField "deny" resourceType.deny ++ [closeBrace]

/-- One entry of the type map: its name, a colon and the type. -/
def writeResourceTypeEntry (entry : Utf16Key × RawOwnershipTransitionResourceType) :
    List Char :=
  writeJsonString entry.1.asStr ++ ':' :: writeResourceType entry.2

/-- The types in the order of the map. -/
def writeResourceTypeMap (types : SortedMap Utf16Key RawOwnershipTransitionResourceType) :
    List Char :=
  openBrace :: (separated ',' writeResourceTypeEntry types.entries ++ [closeBrace])

/-- The scope of a transition. -/
def writeResourceScope (resourceScope : RawOwnershipTransitionResourceScope) : List Char :=
  openBrace :: writeField writeResourceTypeMap "types" resourceScope.types ++ [closeBrace]

/-- A field that holds the scope of a transition. -/
def writeResourceScopeField : String → RawOwnershipTransitionResourceScope → List Char :=
  writeField writeResourceScope

/-- The window of a transition, the end before the beginning. -/
def writeTimeWindow (timeWindow : RawOwnershipTransitionTimeWindow) : List Char :=
  openBrace :: writeDatetimeField "not_after" timeWindow.notAfter ++
    ',' :: writeDatetimeField "not_before" timeWindow.notBefore ++ [closeBrace]

/-- A field that may hold a window. -/
def writeTimeWindowField : String → Option RawOwnershipTransitionTimeWindow → List Char :=
  writeField (optional writeNull writeTimeWindow)

/-- The constraints of a transition. -/
def writeGlobalConstraints (constraints : RawOwnershipTransitionGlobalConstraints) :
    List Char :=
  openBrace :: writeTimeWindowField "time" constraints.time ++ [closeBrace]

/-- A field that may hold constraints. -/
def writeGlobalConstraintsField :
    String → Option RawOwnershipTransitionGlobalConstraints → List Char :=
  writeField (optional writeNull writeGlobalConstraints)

/-- The signature of the predecessor, as the successor signs it with its acceptance. -/
def writeSignature (signature : RawOwnershipTransitionSignature) : List Char :=
  openBrace :: writeJsonStringField "key_id" signature.keyId ++
    ',' :: writeJsonStringField "signature" signature.signature ++ [closeBrace]

/-- A field that holds the signature of the predecessor. -/
def writeSignatureField : String → RawOwnershipTransitionSignature → List Char :=
  writeField writeSignature

/-- The acceptance without its signature. It is the part of the section that the successor can
sign. -/
def writeAcceptance (acceptance : RawOwnershipTransitionAcceptance) : List Char :=
  openBrace :: writeDatetimeField "accepted_at" acceptance.acceptedAt ++
    ',' :: writeJsonStringField "key_id" acceptance.keyId ++ [closeBrace]

/-- The acceptance without its signature, which is what is being made. -/
def writeAcceptanceField : String → RawOwnershipTransitionAcceptance → List Char :=
  writeField writeAcceptance

/-- The payload that the predecessor signs: the transition without either proof. The members are
in the order of their names. -/
def writeTransitionProposal (rawDocument : RawOwnershipTransitionDocument) : List Char :=
  openBrace ::
    writeResourceScopeField "canonical_resource_scope" rawDocument.canonicalResourceScope ++
    ',' :: writeDatetimeField "effective_at" rawDocument.effectiveAt ++
    ',' :: writeJsonStringField "from_authority" rawDocument.fromAuthority ++
    ',' :: writeGlobalConstraintsField "global_constraints" rawDocument.globalConstraints ++
    ',' :: writeJsonStringField "origin_authority" rawDocument.originAuthority ++
    ',' :: writeU64Field "revision" rawDocument.revision ++
    ',' :: writeOptionalStringField "supersedes_transition_id"
      rawDocument.supersedesTransitionId ++
    ',' :: writeJsonStringField "to_authority" rawDocument.toAuthority ++
    ',' :: writeJsonStringField "transition_id" rawDocument.transitionId ++
    ',' :: writeJsonStringField "transition_series_id" rawDocument.transitionSeriesId ++
    ',' :: writeU8Field "version" rawDocument.version ++ [closeBrace]

/-- The payload that the successor signs: the proposal with its signature and the time of the
acceptance. -/
def writeTransitionAcceptance (rawDocument : RawOwnershipTransitionDocument) : List Char :=
  openBrace ::
    writeResourceScopeField "canonical_resource_scope" rawDocument.canonicalResourceScope ++
    ',' :: writeDatetimeField "effective_at" rawDocument.effectiveAt ++
    ',' :: writeJsonStringField "from_authority" rawDocument.fromAuthority ++
    ',' :: writeGlobalConstraintsField "global_constraints" rawDocument.globalConstraints ++
    ',' :: writeJsonStringField "origin_authority" rawDocument.originAuthority ++
    ',' :: writeSignatureField "predecessor_signature" rawDocument.predecessorSignature ++
    ',' :: writeU64Field "revision" rawDocument.revision ++
    ',' :: writeAcceptanceField "successor_acceptance" rawDocument.successorAcceptance ++
    ',' :: writeOptionalStringField "supersedes_transition_id"
      rawDocument.supersedesTransitionId ++
    ',' :: writeJsonStringField "to_authority" rawDocument.toAuthority ++
    ',' :: writeJsonStringField "transition_id" rawDocument.transitionId ++
    ',' :: writeJsonStringField "transition_series_id" rawDocument.transitionSeriesId ++
    ',' :: writeU8Field "version" rawDocument.version ++ [closeBrace]

end OwnershipTransition

open OwnershipTransition

/-- Canonical bytes of one side of a transition. -/
structure CanonicalOwnershipTransitionBytes where
  bytes : ByteArray

/-- Produces deterministic signable bytes for the predecessor. -/
def canonicalizeTransitionProposal (rawDocument : RawOwnershipTransitionDocument) :
    CanonicalizationProfile → Except TrustGrantError CanonicalOwnershipTransitionBytes
  | .rfc8785 => .ok ⟨(String.ofList (writeTransitionProposal rawDocument)).toUTF8⟩

/-- Produces deterministic signable bytes for the acceptance of the successor. -/
def canonicalizeTransitionAcceptance (rawDocument : RawOwnershipTransitionDocument) :
    CanonicalizationProfile → Except TrustGrantError CanonicalOwnershipTransitionBytes
  | .rfc8785 => .ok ⟨(String.ofList (writeTransitionAcceptance rawDocument)).toUTF8⟩

end TrustGrant
