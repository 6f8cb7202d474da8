import TrustGrant.Rust.Text
import TrustGrant.Library.Results

/-!
# Errors and size limits

The error values carry the field names the source puts into them. A size limit is
checked by one of two functions, on the number of items of a collection or on the
number of UTF-8 bytes of a string.
-/

namespace TrustGrant

open Rust Library

/-- The errors of the protocol core that the modelled functions return. Where the source names a
field or a limit in an error, the constructor carries it; a panic is one more outcome. -/
inductive TrustGrantError where
  | emptyAuthorityId
  | emptyStringField (field : String)
  | invalidStringFieldCharacter (field : String) (character : Char)
  | invalidAuthorityIdCharacter (character : Char)
  | invalidAuthorityIdMissingScheme
  | invalidScopeShape (scopeName : String)
  | invalidSelectorShape
  | unsupportedSelectorExpressionPredicate (predicate : String)
  | invalidSelectorExpressionSyntax
  | documentTooLarge (document : String) (maxBytes : Nat)
  | collectionTooLarge (field : String) (maxItems : Nat)
  | stringTooLong (field : String) (maxBytes : Nat)
  | duplicateSelector
  | duplicateKeyId
  | duplicateOperationName
  | duplicateAudienceAuthority
  | missingMutationIntentId
  | missingExpectedResourceVersion
  | missingResourceTypeBinding
  | missingTemplateId
  | invalidMutationResourceBinding
  | invalidMintQuantity
  | resourceTypeBindingMismatch
  | reservedOperationName
  | invalidJsonDocument
  | canonicalizationFailure
  | invalidDiscoveryDocument
  | invalidDelegatedPrincipalDocument
  | invalidOwnershipTransitionDocument
  | signatureVerificationFailed
  | ownershipTransitionPredecessorSignatureFailed
  | ownershipTransitionSuccessorSignatureFailed
  | signerAuthorityMismatch
  | keyIdMismatch
  | discoveryAuthorityMismatch
  | delegatedDiscoveryAuthorityMismatch
  | missingSigningKey
  | delegationNotSupported
  | delegatedPrincipalMismatch
  | ownershipOriginMismatch
  | activeOwningAuthorityMismatch
  | missingOwnershipTransitionChain
  | ownershipTransitionOriginMismatch
  | ownershipTransitionActiveOwnerMismatch
  | invalidOwnershipTransitionChain
  | ownershipTransitionScopeMismatch
  | signerKeyInactive
  | signatureProfileMismatch
  | issuerPrincipalMismatch
  | invalidRevocationFreshnessWindow
  | invalidRevocationPolicy
  | staleRevocationRecord
  | insufficientRevocationProofFinality
  | verificationPostureRequiresNonLiveRevocation
  | missingAuthorityDiscoveryDocument
  | missingDelegatedPrincipalDocument
  | missingRevocationProof
  | revocationProofGrantMismatch
  | conflictingProofBundleEntry (entry : String)
  | unexpectedRevocationProofForNonRevocableGrant
  | missingIdSeparator
  | invalidIdPrefix (expectedPrefix : String)
  | invalidIdUuid
  | invalidProtocolVersion (version : UInt8)
  | invalidSupersedesForFirstRevision
  | missingSupersedesForNonFirstOwnershipTransitionRevision
  | selfSupersession
  | invalidOwnershipTransitionParties
  | invalidOwnershipTransitionScope
  | invalidOwnershipTransitionEffectiveAt
  | invalidOwnershipTransitionAcceptanceTime
  | unsupportedV0WireSupersessionPolicy
  | unsupportedPersistedVerifiedGrantRecordVersion (version : UInt16)
  | invalidTimeWindow
  | invalidKeyValidityWindow
  | zeroRevision
  /-- Not an error of the source: the call panicked. Like an error that no caller handles, a
  panic ends the whole run. -/
  | panicked
deriving DecidableEq, Repr

namespace Limits

/-- The bytes of a grant that is parsed. -/
def maxTrustgrantJsonBytes : Nat := 64 * 1024

/-- The bytes of an ownership transition that is parsed. -/
def maxOwnershipTransitionJsonBytes : Nat := 32 * 1024

/-- The bytes of a document about delegated keys that is parsed. -/
def maxDelegatedPrincipalJsonBytes : Nat := 32 * 1024

/-- The resource types of a grant. -/
def maxResourceTypes : Nat := 64

/-- The entries of an audience, the default one or that of a type. -/
def maxAudienceEntries : Nat := 64

/-- The selectors of either list of a scope. -/
def maxSelectorsPerScope : Nat := 32

/-- The values of a selector. -/
def maxSelectorValuesPerSelector : Nat := 32

/-- The expressions of a selector. -/
def maxSelectorExpressionsPerSelector : Nat := 16

/-- The names of either list of an operation scope. -/
def maxOperationsPerScope : Nat := 32

/-- The keys of a discovery document. -/
def maxDiscoveryKeys : Nat := 64

/-- The endpoints at which a discovery document says that revocations are served. -/
def maxRevocationEndpoints : Nat := 16

/-- The transitions of a chain. -/
def maxOwnershipChainLength : Nat := 32

/-- The discovery documents of a proof bundle. -/
def maxBundleDiscoveryDocuments : Nat := 64

/-- The documents about delegated keys of a proof bundle. -/
def maxBundleDelegatedPrincipalDocuments : Nat := 128

/-- The revocation proofs of a proof bundle. -/
def maxBundleRevocationProofs : Nat := 64

/-- The transition chains of a proof bundle. -/
def maxBundleOwnershipTransitionChains : Nat := 64

/-- The kinds of selectors in one context of a request. -/
def maxRequestSelectorKinds : Nat := 32

/-- The values of one kind in a context of a request. -/
def maxRequestValuesPerKind : Nat := 32

/-- The bytes of an authority identifier. -/
def maxAuthorityIdBytes : Nat := 1024

/-- The bytes of the name of a custom operation. -/
def maxOperationNameBytes : Nat := 128

/-- The bytes of the name of a resource type. -/
def maxResourceTypeNameBytes : Nat := 128

/-- The bytes of a key identifier. -/
def maxKeyIdBytes : Nat := 128

/-- The bytes of a selector kind. -/
def maxSelectorKindBytes : Nat := 128

/-- The bytes of a principal kind. -/
def maxPrincipalKindBytes : Nat := 128

/-- The bytes of a principal identifier. -/
def maxPrincipalIdBytes : Nat := 256

/-- The bytes of the name of an algorithm. -/
def maxAlgorithmNameBytes : Nat := 64

/-- The bytes of a public key. -/
def maxPublicKeyMaterialBytes : Nat := 4096

/-- The bytes of the name of a signature format. -/
def maxSignatureProfileFormatBytes : Nat := 64

/-- The bytes of the name of a canonicalization. -/
def maxCanonicalizationNameBytes : Nat := 64

/-- The bytes of a value of a selector. -/
def maxSelectorValueBytes : Nat := 256

/-- The bytes of an expression of a selector. -/
def maxSelectorExpressionBytes : Nat := 512

/-- The bytes of a value in a context of a request. -/
def maxRequestSelectorValueBytes : Nat := 256

end Limits

/-- Reject a document of more than `maxBytes` bytes. -/
def ensureJsonSize (document : String) (actualBytes maxBytes : Nat) :
    Except TrustGrantError Unit :=
  Results.rejectIf (actualBytes > maxBytes) (.documentTooLarge document maxBytes)

/-- Reject a collection with more than `maxItems` items. -/
def ensureCollectionLimit (field : String) (actualItems maxItems : Nat) :
    Except TrustGrantError Unit :=
  Results.rejectIf (actualItems > maxItems) (.collectionTooLarge field maxItems)

/-- Reject a string of more than `maxBytes` UTF-8 bytes. -/
def ensureStringLimit (field value : String) (maxBytes : Nat) : Except TrustGrantError Unit :=
  Results.rejectIf (Text.len value > maxBytes) (.stringTooLong field maxBytes)

/-- The collection check passes exactly within the limit. -/
theorem ensure_collection_limit_ok_iff (field : String) (actualItems maxItems : Nat)
    (done : Unit) :
    ensureCollectionLimit field actualItems maxItems = .ok done ↔ actualItems ≤ maxItems := by
  rw [ensureCollectionLimit, Results.reject_if_ok_iff, gt_iff_lt, Nat.not_lt]

/-- The string check passes exactly within the limit. -/
theorem ensure_string_limit_ok_iff (field value : String) (maxBytes : Nat) (done : Unit) :
    ensureStringLimit field value maxBytes = .ok done ↔ Text.len value ≤ maxBytes := by
  rw [ensureStringLimit, Results.reject_if_ok_iff, gt_iff_lt, Nat.not_lt]

end TrustGrant
