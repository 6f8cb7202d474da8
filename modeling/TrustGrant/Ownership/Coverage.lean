import TrustGrant.Document.OwnershipTransition
import TrustGrant.Evaluate.Requirements
import TrustGrant.Ownership.LinearHistory

/-!
# What transferred ownership can authorize

The chain verifier compares lists of selectors. A grant whose selectors pass this
comparison admits only resources that every transition of the chain handed over: each
admitted context has a value that the transition lists under the same kind.

Coverage is a relation between lists of selectors, and handing over is one between a context
and a list. The first implies the second for every context that a covered scope admits, and
so for everything that evaluation allows.
-/

namespace TrustGrant

open Rust Limits Library

/-- The resources of a type that a grant admits: the allow side selects the context and the
deny side does not. -/
def Admits (resourceType : ValidatedResourceType) (context : SelectorContext) : Prop :=
  Allows resourceType.all resourceType.allow context ∧ ¬ Denies resourceType.deny context

/-- A transition hands over the resources of a type that have a value it lists. It is stated
about a context, which is how requests describe resources. -/
def HandsOver (transition : OwnershipTransitionRecord) (name : ResourceTypeName)
    (context : SelectorContext) : Prop :=
  ∃ scope, transition.resourceScope.get name = some scope ∧ ∃ handed ∈ scope.selectors,
    ∃ value ∈ handed.values, value ∈ context.valueSet handed.kind

/-- A covered selector selects only contexts with a value that is handed over. It lists values
and nothing else, and each of them is listed by a selector of the transition. -/
theorem handed_of_selects (selector : ValidatedSelector) (scope : OwnershipResourceScope)
    (context : SelectorContext) (covered : SelectorCovered selector scope)
    (selects : Selects selector context) :
    ∃ handed ∈ scope.selectors, ∃ value ∈ handed.values, value ∈ context.valueSet handed.kind := by
  obtain ⟨notAll, noExpressions, -⟩ := covered.listsOnly
  rcases selects with everything | ⟨value, inContext, listed | ⟨expression, written, -⟩⟩
  · rw [notAll] at everything
    cases everything
  · obtain ⟨handed, inScope, sameKind, lists⟩ := covered.held value listed
    refine ⟨handed, inScope, value, lists, ?_⟩
    rw [context.value_set_same_kind _ _ sameKind]
    exact inContext
  · rw [noExpressions] at written
    cases written

/-- A covered resource type admits only what is handed over. What it admits is selected by one of
its selectors, which is covered. -/
theorem handed_of_admits (resourceType : ValidatedResourceType) (scope : OwnershipResourceScope)
    (context : SelectorContext) (covered : TypeCovered resourceType scope)
    (admitted : Admits resourceType context) :
    ∃ handed ∈ scope.selectors, ∃ value ∈ handed.values, value ∈ context.valueSet handed.kind := by
  rcases admitted.1 with everything | ⟨selector, allowed, selects⟩
  · rw [covered.listsOnly.1] at everything
    cases everything
  · exact handed_of_selects selector scope context (covered.selectors selector allowed) selects

/-- Every transition of an accepted chain covers the document. For an empty chain there is
nothing to cover. -/
theorem covered_of_accepted (document : ValidatedTrustGrantDocument)
    (transitions : List OwnershipTransitionRecord) (checkedAt : DateTime)
    (record : OwnershipVerificationRecord)
    (accepted : verifyDocumentOwnership document transitions checkedAt = .ok record) :
    ∀ transition ∈ transitions, ScopeCovered document transition := by
  rcases (verify_document_ownership_ok_iff _ _).mp accepted with ⟨rfl, -⟩ |
    ⟨last, -, -, history, -⟩
  · simp
  · exact history.covered

/-- A request that a grant allows is about a resource that the granted type admits. The type is
looked up by an early step, and its two sides were tried by a later one. -/
theorem admits_of_allowed (grant : VerifiedTrustGrant) (request : EvaluationRequest)
    (allowed : (evaluate grant request).decision.isAllowed = true) :
    ∃ resourceType, granted grant request = some resourceType ∧
      Admits resourceType request.resource.selectors := by
  rw [is_allowed_iff] at allowed
  unfold evaluateSteps at allowed
  simp only [Results.bind_ok_iff, Results.ok_or_ok_iff] at allowed
  obtain ⟨-, -, -, -, -, -, -, -, -, -, resourceType, found, evaluated⟩ := allowed
  refine ⟨resourceType, found, ?_⟩
  unfold evaluateResourceType at evaluated
  simp only [Results.bind_ok_iff] at evaluated
  obtain ⟨-, -, ⟨⟩, admitted, -⟩ := evaluated
  have decided := scope_decides resourceType.all resourceType.allow resourceType.deny
    request.resource.selectors .resourceDenied .resourceNotAllowed
  unfold OrderedChecks.Decides at decided
  rw [admitted] at decided
  have sides := (OrderedChecks.accepted_iff _).mp decided
  simpa [scopeChecks, Admits, OrderedChecks.Hold] using sides

/-- Coverage is sound: whatever a document with an accepted chain admits of a type it grants
was handed over by every transition of the chain. So no grant of the document allows a
request about a resource that some transition did not hand over.

Proof: every transition of an accepted chain covers the document, and a covered selector selects
only contexts with a value that is handed over. An allowed request is about a resource that its
granted type admits. -/
theorem accepted_scope_handed_over (document : ValidatedTrustGrantDocument)
    (transitions : List OwnershipTransitionRecord) (checkedAt : DateTime)
    (record : OwnershipVerificationRecord)
    (accepted : verifyDocumentOwnership document transitions checkedAt = .ok record) :
    (∀ name resourceType context, document.resourceScope.get name = some resourceType →
      Admits resourceType context →
        ∀ transition ∈ transitions, HandsOver transition name context) ∧
    ∀ metadata request,
      (evaluate (.new (.ofValidated document) metadata) request).decision.isAllowed = true →
        ∀ transition ∈ transitions,
          HandsOver transition request.resource.resourceType request.resource.selectors := by
  have covered := covered_of_accepted document transitions checkedAt record accepted
  have handedOver : ∀ name resourceType context,
      document.resourceScope.get name = some resourceType → Admits resourceType context →
        ∀ transition ∈ transitions, HandsOver transition name context := by
    intro name resourceType context grants admitted transition member
    obtain ⟨scope, named, typeCovered⟩ :=
      covered transition member _ (document.resourceScope.mem_of_get name resourceType grants)
    exact ⟨scope, named, handed_of_admits resourceType scope context typeCovered admitted⟩
  refine ⟨handedOver, ?_⟩
  intro metadata request allowed
  obtain ⟨resourceType, grants, admitted⟩ := admits_of_allowed _ request allowed
  exact handedOver _ resourceType _ grants admitted

/-- The small document about a transferred item. -/
def smallTransferredDocument : ValidatedTrustGrantDocument :=
  Results.valueOf (ValidatedTrustGrantDocument.tryFrom Text.asciiCaseMapping smallTransferred)
    (by decide +kernel)

/-- The transfer of the item as chain verification reads it. -/
def smallTransfer : OwnershipTransitionRecord :=
  Results.valueOf (do
    let document ← ValidatedOwnershipTransitionDocument.tryFrom Text.asciiCaseMapping
      smallTransition
    document.toRecord) (by decide +kernel)

/-- What is established about the owner of the item. -/
def smallOwnership : OwnershipVerificationRecord :=
  Results.valueOf (verifyDocumentOwnership smallTransferredDocument [smallTransfer] smallInstant)
    (by decide +kernel)

/-- A request to recognize the transferred item. -/
def smallRecognitionOfTransferred : EvaluationRequest :=
  Results.valueOf (do
    let resource ← smallRecognition.resource.insertSelector "id" "a"
    return { smallRecognition with resource }) (by decide +kernel)

/-- The small document allows a request about the item, and the transfer handed it over. Its
scope is covered by that of the transition, so every resource it admits was transferred. -/
theorem small_transfer_hands_over :
    HandsOver smallTransfer smallRecognitionOfTransferred.resource.resourceType
      smallRecognitionOfTransferred.resource.selectors :=
  (accepted_scope_handed_over smallTransferredDocument [smallTransfer] smallInstant
    smallOwnership (Results.value_of_eq _ _)).2 smallMetadata smallRecognitionOfTransferred
    (by decide +kernel) smallTransfer List.mem_cons_self

end TrustGrant
