import TrustGrant.Document.Validated
import TrustGrant.Domain.Ownership

/-!
# Verification of ownership chains

The chain verifier walks through the transitions once and remembers the current owner, the
transitions it has seen, the series, the last revision, the last effective time and the
tip. What it accepts is stated without any of this: the transitions form one linear
history from the origin of the document to its active owner.

The remembered values are one structure here, which the loop passes on. Its fields can be
read off the transitions that were passed, which is how the loop is related to histories in
the next module.
-/

namespace TrustGrant

open Rust Limits Library

/-- Every value of a plain selector stands in a transition selector of its kind. A selector for
everything, or with expressions, is refused. -/
def ensureSelectorCovered (documentSelector : ValidatedSelector)
    (transitionSelectors : List OwnershipSelector) : Except TrustGrantError Unit := do
  Results.rejectIf (documentSelector.all = true ∨ documentSelector.expressions ≠ [] ∨
    documentSelector.values = []) .ownershipTransitionScopeMismatch
  let allTransitionValues :=
    (transitionSelectors.filter fun selector => selector.kind == documentSelector.kind).flatMap
      OwnershipSelector.values
  Results.rejectIf
    ((documentSelector.values.all fun value => allTransitionValues.contains value) = false)
    .ownershipTransitionScopeMismatch

/-- What a grant says about a type lies within what a transition handed over of it. A scope for
everything and a deny list are refused, and each selector of the allow list has to be covered. -/
def ensureResourceTypeScopeCovered (documentResourceType : ValidatedResourceType)
    (transitionResourceScope : OwnershipResourceScope) : Except TrustGrantError Unit := do
  Results.rejectIf (documentResourceType.all = true ∨ documentResourceType.deny ≠ [])
    .ownershipTransitionScopeMismatch
  documentResourceType.allow.forM fun selector =>
    ensureSelectorCovered selector transitionResourceScope.selectors

/-- Every type of a grant is covered by the scope of a transition. A type that was not handed
over is an error. -/
def ensureTransitionScopeCoversDocument
    (documentScope : SortedMap ResourceTypeName ValidatedResourceType)
    (transitionScope : SortedMap ResourceTypeName OwnershipResourceScope) :
    Except TrustGrantError Unit :=
  documentScope.entries.forM fun entry => do
    let transitionResourceScope ← Results.okOr (transitionScope.get entry.1)
      .ownershipTransitionScopeMismatch
    ensureResourceTypeScopeCovered entry.2 transitionResourceScope

/-- What the walk remembers of the transitions behind it. It is a function of them, as the
results on histories show. -/
structure ChainState where
  currentOwner : AuthorityId
  seenTransitionIds : List TransitionId
  currentSeriesId : Option TransitionSeriesId
  currentRevision : Option UInt64
  previousEffectiveAt : Option DateTime
  tip : Option TransitionId

/-- The first transition sets the series and the others keep it. A document does not name the
series itself. -/
def checkSeries (currentSeriesId : Option TransitionSeriesId)
    (transition : OwnershipTransitionRecord) : Except TrustGrantError Unit :=
  match currentSeriesId with
  | some seriesId =>
    Results.rejectIf (transition.lineage.transitionSeriesId ≠ seriesId)
      .invalidOwnershipTransitionChain
  | none => .ok ()

/-- The first revision is one; a later one is larger and supersedes the tip. The tip is the
transition that was passed last. -/
def checkRevision (currentRevision : Option UInt64) (tip : Option TransitionId)
    (transition : OwnershipTransitionRecord) : Except TrustGrantError Unit :=
  match currentRevision with
  | some revision => do
    Results.rejectIf (transition.lineage.revision.get ≤ revision) .invalidOwnershipTransitionChain
    Results.rejectIf (transition.lineage.supersedesTransitionId ≠ tip)
      .invalidOwnershipTransitionChain
  | none =>
    Results.rejectIf (transition.lineage.revision.get ≠ 1) .invalidOwnershipTransitionChain

/-- The window of the transition, when it has one, contains the time of the check. -/
def checkWindow (timeWindow : Option OwnershipTimeWindow) (checkedAt : DateTime) :
    Except TrustGrantError Unit :=
  Results.rejectIf ((timeWindow.any fun window => !window.contains checkedAt) = true)
    .invalidOwnershipTransitionChain

/-- Transitions take effect in their order. -/
def checkEffectiveOrder (previousEffectiveAt : Option DateTime) (effectiveAt : DateTime) :
    Except TrustGrantError Unit :=
  Results.rejectIf ((previousEffectiveAt.any fun previous => effectiveAt < previous) = true)
    .invalidOwnershipTransitionChain

/-- One turn of the loop. It checks one transition against what is remembered and then remembers
it in turn. -/
def followTransition (document : ValidatedTrustGrantDocument) (checkedAt : DateTime)
    (state : ChainState) (transition : OwnershipTransitionRecord) :
    Except TrustGrantError ChainState := do
  let ownership := document.ownershipAuthorityState
  Results.rejectIf (transition.originAuthority ≠ ownership.originAuthority)
    .ownershipTransitionOriginMismatch
  Results.rejectIf (transition.lineage.transitionId ∈ state.seenTransitionIds)
    .invalidOwnershipTransitionChain
  checkSeries state.currentSeriesId transition
  checkRevision state.currentRevision state.tip transition
  Results.rejectIf (transition.predecessorAuthority ≠ state.currentOwner)
    .invalidOwnershipTransitionChain
  Results.rejectIf (checkedAt < transition.effectiveAt) .invalidOwnershipTransitionChain
  checkWindow transition.timeWindow checkedAt
  checkEffectiveOrder state.previousEffectiveAt transition.effectiveAt
  ensureTransitionScopeCoversDocument document.resourceScope transition.resourceScope
  return {
    currentOwner := transition.successorAuthority
    seenTransitionIds := transition.lineage.transitionId :: state.seenTransitionIds
    currentSeriesId := some (state.currentSeriesId.getD transition.lineage.transitionSeriesId)
    currentRevision := some transition.lineage.revision.get
    previousEffectiveAt := some transition.effectiveAt
    tip := some transition.lineage.transitionId }

/-- What the loop starts from. -/
def ChainState.start (originAuthority : AuthorityId) : ChainState :=
  ⟨originAuthority, [], none, none, none, none⟩

/-- `OwnershipChainVerifier::verify_document_ownership`. An empty chain is accepted for a
document whose owner is the origin, and any other chain is followed to its end. -/
def verifyDocumentOwnership (document : ValidatedTrustGrantDocument)
    (transitions : List OwnershipTransitionRecord) (checkedAt : DateTime) :
    Except TrustGrantError OwnershipVerificationRecord := do
  let ownership := document.ownershipAuthorityState
  ensureCollectionLimit "ownership_transition.chain" transitions.length maxOwnershipChainLength
  if transitions = [] then
    Results.rejectIf (ownership.originAuthority ≠ ownership.activeOwningAuthority)
      .missingOwnershipTransitionChain
    return ⟨ownership.originAuthority, ownership.activeOwningAuthority, checkedAt, .staticOwner,
      none⟩
  else
    let reached ← transitions.foldlM (followTransition document checkedAt)
      (.start ownership.originAuthority)
    Results.rejectIf (reached.currentOwner ≠ ownership.activeOwningAuthority)
      .ownershipTransitionActiveOwnerMismatch
    return ⟨ownership.originAuthority, reached.currentOwner, checkedAt, .transitionChain,
      reached.tip⟩

end TrustGrant
