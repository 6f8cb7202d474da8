import TrustGrant.Evaluate.Engine
import TrustGrant.Library.Results

/-!
# State-changing requests and their authorizations

A mutation request is an evaluation request whose intent and resource binding were
checked when it was made; the type keeps the result of that check. Its authorization
is the evaluation outcome together with the parts of the request that outlive it.
-/

namespace TrustGrant

open Rust Library

/-- A reference to an existing resource must carry the type of the request and the
version its caller saw. -/
def checkExisting (request : EvaluationRequest) (resource : ResourceRef) :
    Except TrustGrantError Unit := do
  let resourceType ← Results.okOr resource.resourceType .missingResourceTypeBinding
  Results.rejectIf (resourceType ≠ request.resource.resourceType) .resourceTypeBindingMismatch
  Results.rejectIf (resource.expectedVersion = none) .missingExpectedResourceVersion

/-- Mints act on templates and everything else acts on existing resources. Every other
combination is refused. -/
def checkBinding (request : EvaluationRequest) : Except TrustGrantError Unit :=
  match request.operation, request.resourceBinding with
  | .capability .mint, .mint template =>
    Results.rejectIf (template.templateId = none) .missingTemplateId
  | .capability .mint, .existing _ => .error .invalidMutationResourceBinding
  | _, .mint _ => .error .invalidMutationResourceBinding
  | _, .existing resource => checkExisting request resource

/-- What `MutationRequest::try_from` requires of a request, and the intent it finds. -/
def bindMutation (request : EvaluationRequest) : Except TrustGrantError IntentId := do
  let intentId ← Results.okOr request.intentId .missingMutationIntentId
  checkBinding request
  return intentId

/-- A request whose bindings were found complete. The result of this check is a field of the
type. -/
structure MutationRequest where
  request : EvaluationRequest
  intentId : IntentId
  actor : Option AuthorityId
  envelopeExpiresAt : Option DateTime
  bound : bindMutation request = .ok intentId

namespace MutationRequest

/-- The actor and the envelope expiry are left for the caller to set. Nothing later makes sure
that they were set. -/
def tryFrom (request : EvaluationRequest) : Except TrustGrantError MutationRequest :=
  match bound : bindMutation request with
  | .error problem => .error problem
  | .ok intentId => .ok ⟨request, intentId, none, none, bound⟩

/-- The authority on whose behalf the mutation is executed. -/
def withActor (request : MutationRequest) (actor : AuthorityId) : MutationRequest :=
  { request with actor := some actor }

/-- When the envelope of the operation expires. Nothing is compared here. -/
def withEnvelopeExpiry (request : MutationRequest) (expiresAt : DateTime) : MutationRequest :=
  { request with envelopeExpiresAt := some expiresAt }

/-- Whether this request creates new resources. -/
def isMint (request : MutationRequest) : Bool := request.request.operation.isMint

/-- The existing resource this request acts on. -/
def existingResource (request : MutationRequest) : Option ResourceRef :=
  match request.request.resourceBinding with
  | .existing resource => some resource
  | .mint _ => none

/-- The number of resources a mint asks for: one unless the caller said otherwise. -/
def requestedQuantity (request : MutationRequest) : UInt64 :=
  (request.request.mintContext.map MintContext.requestedQuantity).getD 1

/-- A mint asks for at least one resource. -/
theorem requested_quantity_positive (request : MutationRequest) :
    request.requestedQuantity ≠ 0 := by
  unfold requestedQuantity
  cases request.request.mintContext with
  | none => decide
  | some context => exact context.positive

/-- A request that does not mint passed the checks of an existing resource. A template is refused
for every other operation, so the binding is one of a resource. -/
theorem checked_of_not_mint (request : MutationRequest) (notMint : request.isMint = false) :
    ∃ resource, request.existingResource = some resource ∧
      checkExisting request.request resource = .ok () := by
  obtain ⟨intentId, -, remaining⟩ := (Results.bind_ok_iff _ _ _).mp request.bound
  obtain ⟨⟨⟩, checked, -⟩ := (Results.bind_ok_iff _ _ _).mp remaining
  unfold isMint RequestedOperation.isMint at notMint
  unfold checkBinding at checked
  unfold existingResource
  cases binding : request.request.resourceBinding with
  | existing resource =>
    refine ⟨resource, rfl, ?_⟩
    rw [binding] at checked
    split at checked <;> simp_all
  | mint template =>
    rw [binding] at checked
    split at checked <;> simp_all

/-- A request that does not mint names its resource's type and expected version. The constructor
of mutation requests refuses it otherwise. -/
theorem existing_of_not_mint (request : MutationRequest) (notMint : request.isMint = false) :
    ∃ resource resourceType version, request.existingResource = some resource ∧
      resource.resourceType = some resourceType ∧ resource.expectedVersion = some version := by
  obtain ⟨resource, acted, checked⟩ := request.checked_of_not_mint notMint
  obtain ⟨resourceType, typed, remaining⟩ := (Results.bind_ok_iff _ _ _).mp checked
  obtain ⟨-, -, versioned⟩ := (Results.bind_ok_iff _ _ _).mp remaining
  rw [Results.reject_if_ok_iff] at versioned
  obtain ⟨version, named⟩ := Option.ne_none_iff_exists'.mp versioned
  exact ⟨resource, resourceType, version, acted, (Results.ok_or_ok_iff _ _ _).mp typed, named⟩

end MutationRequest

/-- A decision together with the request it binds. -/
structure MutationAuthorization where
  outcome : EvaluationOutcome
  actor : Option AuthorityId
  intentId : IntentId
  envelopeExpiresAt : Option DateTime

namespace MutationAuthorization

/-- The authorization of a request: its own texts and times with the outcome of the
evaluation. -/
def new (request : MutationRequest) (outcome : EvaluationOutcome) : MutationAuthorization :=
  ⟨outcome, request.actor, request.intentId, request.envelopeExpiresAt⟩

/-- The exact request evaluated inside the transaction boundary. -/
def request (authorization : MutationAuthorization) : EvaluationRequest :=
  authorization.outcome.request

/-- Whether a later call under the same intent asks for the same mutation. Grant, request and
contexts are compared, the quantity is not. -/
def matchesRequest (authorization : MutationAuthorization) (grantId : TrustGrantId)
    (request : MutationRequest) : Bool :=
  authorization.outcome.decision.trustgrantId == grantId &&
    authorization.request.sameMutationIntent request.request

end MutationAuthorization

end TrustGrant
