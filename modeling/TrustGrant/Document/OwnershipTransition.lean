import TrustGrant.Document.Validated
import TrustGrant.Domain.Ownership

/-!
# Ownership-transition documents

The signed proof of one transition as it is read from JSON, and its validation. A valid
proof names finite sets of resources only, and its effective time lies in its window.

The validator reports the first problem, in the order in which the source looks for
problems. A transition that was validated becomes a record without its signatures, which is
what the verifier of chains works on.
-/

namespace TrustGrant

open Rust Limits Library

/-- A selector of a transition on the wire. It has the fields of a selector of a grant, but only
values are accepted. -/
@[ext] structure RawOwnershipTransitionSelector where
  kind : String
  all : Bool
  values : Option (List String)
  expressions : Option (List String)
deriving DecidableEq

/-- A resource type of a transition on the wire. -/
@[ext] structure RawOwnershipTransitionResourceType where
  all : Bool
  allow : Option (List RawOwnershipTransitionSelector)
  deny : Option (List RawOwnershipTransitionSelector)
deriving DecidableEq

/-- The types of a transition under the names that it gives them. -/
@[ext] structure RawOwnershipTransitionResourceScope where
  types : SortedMap Utf16Key RawOwnershipTransitionResourceType
deriving DecidableEq

/-- The window of a transition, whose ends may be in either order. -/
@[ext] structure RawOwnershipTransitionTimeWindow where
  notBefore : DateTime
  notAfter : DateTime
deriving DecidableEq

/-- The constraints of a transition, which are a window at most. -/
@[ext] structure RawOwnershipTransitionGlobalConstraints where
  time : Option RawOwnershipTransitionTimeWindow
deriving DecidableEq

/-- The signature of the predecessor and the key it is made with. -/
@[ext] structure RawOwnershipTransitionSignature where
  keyId : String
  signature : String
deriving DecidableEq

/-- When the successor accepted, with its signature and key. -/
@[ext] structure RawOwnershipTransitionAcceptance where
  acceptedAt : DateTime
  keyId : String
  signature : String
deriving DecidableEq

/-- The proof as its parties publish it. Nothing is checked yet; every value is the text or the
number that was read. -/
@[ext] structure RawOwnershipTransitionDocument where
  transitionId : String
  version : UInt8
  transitionSeriesId : String
  revision : UInt64
  supersedesTransitionId : Option String
  originAuthority : String
  fromAuthority : String
  toAuthority : String
  canonicalResourceScope : RawOwnershipTransitionResourceScope
  globalConstraints : Option RawOwnershipTransitionGlobalConstraints
  effectiveAt : DateTime
  predecessorSignature : RawOwnershipTransitionSignature
  successorAcceptance : RawOwnershipTransitionAcceptance
deriving DecidableEq

/-- The key and the signature of the predecessor. -/
structure OwnershipTransitionSignature where
  keyId : KeyId
  signature : String

/-- The time, the key and the signature of the successor's acceptance. -/
structure OwnershipTransitionAcceptance where
  acceptedAt : DateTime
  keyId : KeyId
  signature : String

/-- A validated proof. Its parts carry what their constructors check, so a later step need not
check it again. -/
structure ValidatedOwnershipTransitionDocument where
  lineage : OwnershipTransitionLineage
  parties : OwnershipTransitionParties
  resourceScope : SortedMap ResourceTypeName OwnershipResourceScope
  timeWindow : Option OwnershipTimeWindow
  effectiveAt : DateTime
  predecessorSignature : OwnershipTransitionSignature
  successorAcceptance : OwnershipTransitionAcceptance

/-- Only values can be handed over: a selector of everything, or one with expressions, is
refused. -/
def validateTransitionSelector (raw : RawOwnershipTransitionSelector) :
    Except TrustGrantError OwnershipSelector := do
  Results.rejectIf (raw.all = true ∨ raw.expressions.isSome = true)
    .invalidOwnershipTransitionScope
  let values ← Results.okOr raw.values .invalidOwnershipTransitionScope
  ensureCollectionLimit "ownership_transition.selector_values" values.length
    maxSelectorValuesPerSelector
  values.forM fun value =>
    ensureStringLimit "ownership_transition.selector_value" value maxSelectorValueBytes
  OwnershipSelector.new raw.kind values

/-- Only allowed selectors can be handed over: a type with all its resources, or with exceptions,
is refused. -/
def validateTransitionResourceType (raw : RawOwnershipTransitionResourceType) :
    Except TrustGrantError OwnershipResourceScope := do
  Results.rejectIf (raw.all = true ∨ raw.deny.isSome = true) .invalidOwnershipTransitionScope
  let selectors ← Results.okOr raw.allow .invalidOwnershipTransitionScope
  ensureCollectionLimit "ownership_transition.selectors" selectors.length maxSelectorsPerScope
  let selectors ← selectors.mapM validateTransitionSelector
  OwnershipResourceScope.new selectors

/-- Validate every named type and collect them; a later entry replaces an earlier one
whose normalized name is the same. -/
def validateTransitionScope (raw : RawOwnershipTransitionResourceScope) :
    Except TrustGrantError (SortedMap ResourceTypeName OwnershipResourceScope) := do
  Results.rejectIf (raw.types.len = 0) .invalidOwnershipTransitionScope
  ensureCollectionLimit "ownership_transition.resource_types" raw.types.len maxResourceTypes
  let types ← raw.types.entries.mapM fun entry => do
    let name ← ResourceTypeName.new entry.1.asStr
    let resourceScope ← validateTransitionResourceType entry.2
    return (name, resourceScope)
  return .ofEntries types

/-- The key and the signature of one party. Neither may be empty; an error of the signature names
its field. -/
def validateTransitionSignature (raw : RawOwnershipTransitionSignature) (fieldName : String) :
    Except TrustGrantError OwnershipTransitionSignature := do
  let keyId ← KeyId.new raw.keyId
  let signature ← normalizeNonEmpty fieldName raw.signature
  return ⟨keyId, signature⟩

/-- The acceptance of the successor. -/
def validateTransitionAcceptance (raw : RawOwnershipTransitionAcceptance) :
    Except TrustGrantError OwnershipTransitionAcceptance := do
  let keyId ← KeyId.new raw.keyId
  let signature ← normalizeNonEmpty "successor_acceptance.signature" raw.signature
  return ⟨raw.acceptedAt, keyId, signature⟩

namespace ValidatedOwnershipTransitionDocument

/-- Validate a proof. The steps are those of the source, in its order: a proof with several
problems is rejected for the first one. -/
def tryFrom (mapping : Text.CaseMapping) (raw : RawOwnershipTransitionDocument) :
    Except TrustGrantError ValidatedOwnershipTransitionDocument := do
  Results.rejectIf (raw.version ≠ 0) (.invalidProtocolVersion raw.version)
  let transitionId ← TransitionId.fromStr raw.transitionId
  let transitionSeriesId ← TransitionSeriesId.fromStr raw.transitionSeriesId
  let revision ← GrantRevision.new raw.revision
  let supersedesTransitionId ← raw.supersedesTransitionId.mapM TransitionId.fromStr
  let lineage ← OwnershipTransitionLineage.new transitionId transitionSeriesId revision
    supersedesTransitionId
  let originAuthority ← AuthorityId.new mapping raw.originAuthority
  let fromAuthority ← AuthorityId.new mapping raw.fromAuthority
  let toAuthority ← AuthorityId.new mapping raw.toAuthority
  let parties ← OwnershipTransitionParties.new originAuthority fromAuthority toAuthority
  let resourceScope ← validateTransitionScope raw.canonicalResourceScope
  let timeWindow ←
    (raw.globalConstraints.bind RawOwnershipTransitionGlobalConstraints.time).mapM fun window =>
      OwnershipTimeWindow.new window.notBefore window.notAfter
  Results.rejectIf ((timeWindow.any fun window => !window.contains raw.effectiveAt) = true)
    .invalidOwnershipTransitionEffectiveAt
  let predecessorSignature ← validateTransitionSignature raw.predecessorSignature
    "predecessor_signature"
  let successorAcceptance ← validateTransitionAcceptance raw.successorAcceptance
  return {
    lineage, parties, resourceScope, timeWindow, predecessorSignature, successorAcceptance
    effectiveAt := raw.effectiveAt }

/-- What chain verification reads of a proof. -/
def toRecord (document : ValidatedOwnershipTransitionDocument) :
    Except TrustGrantError OwnershipTransitionRecord :=
  OwnershipTransitionRecord.new document.lineage document.parties document.resourceScope
    document.timeWindow document.effectiveAt

end ValidatedOwnershipTransitionDocument

/-- The transfer of one item from the authority did:i to the authority did:j. -/
def smallTransition : RawOwnershipTransitionDocument where
  transitionId := "tgt_123e4567-e89b-12d3-a456-426614174002"
  version := 0
  transitionSeriesId := "tgts_123e4567-e89b-12d3-a456-426614174003"
  revision := 1
  supersedesTransitionId := none
  originAuthority := "did:i"
  fromAuthority := "did:i"
  toAuthority := "did:j"
  canonicalResourceScope := ⟨⟨[(⟨"item"⟩, {
    all := false
    allow := some [⟨"id", false, some ["a"], none⟩]
    deny := none })], List.pairwise_singleton _ _⟩⟩
  globalConstraints := none
  effectiveAt := smallInstant
  predecessorSignature := ⟨"k", "s"⟩
  successorAcceptance := ⟨smallInstant, "k", "s"⟩

/-- The transfer of the same item on from the authority did:j to the authority did:h. -/
def smallNextTransition : RawOwnershipTransitionDocument :=
  { smallTransition with
    transitionId := "tgt_123e4567-e89b-12d3-a456-426614174004"
    revision := 2
    supersedesTransitionId := some smallTransition.transitionId
    fromAuthority := "did:j"
    toAuthority := "did:h" }

end TrustGrant
