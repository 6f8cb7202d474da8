import TrustGrant.Rust.Unsigned
import TrustGrant.Verify.VerifiedGrant
import TrustGrant.Evaluate.Request
import Mathlib.Data.Finset.Dedup

/-!
# The evaluation engine

One grant is evaluated against one request by a fixed sequence of steps. Each step
either passes or refuses with its reason, and the first refusal is the decision. The
three result types of the source's steps all say this, so the steps share one type.
-/

namespace TrustGrant

open Rust Library

/-- Why a request is denied. The first reason that is met is the one that is given. -/
inductive EvaluationDenyReason where
  | revoked
  | notYetValid
  | expired
  | targetDenied
  | targetNotAllowed
  | resourceTypeNotGranted
  | resourceDenied
  | resourceNotAllowed
  | audienceDenied
  | audienceNotAllowed
  | audiencePrincipalDenied
  | audiencePrincipalNotAllowed
  | capabilityDisabled
  | operationDenied
  | originAuthorityMismatch
  | missingMintContext
  | missingAudiencePrincipalContext
  | mintTotalLimitReached
  | mintPerUserLimitReached
  | unverifiedSelectors
  | staleRevocationData
deriving DecidableEq

/-- The decision on one grant: no reason means that the request is allowed. -/
structure EvaluationDecision where
  trustgrantId : TrustGrantId
  denyReason : Option EvaluationDenyReason
deriving DecidableEq

namespace EvaluationDecision

/-- The grant allows the request. -/
def allow (trustgrantId : TrustGrantId) : EvaluationDecision := ⟨trustgrantId, none⟩

/-- The grant denies the request for this reason. -/
def deny (trustgrantId : TrustGrantId) (denyReason : EvaluationDenyReason) :
    EvaluationDecision := ⟨trustgrantId, some denyReason⟩

/-- Allowed is what has no reason against it. -/
def isAllowed (decision : EvaluationDecision) : Bool := decision.denyReason.isNone

end EvaluationDecision

/-- A decision with the request it was made on. The request carries the counters that a mint was
compared with. -/
structure EvaluationOutcome where
  decision : EvaluationDecision
  request : EvaluationRequest

/-- The result of one step. -/
abbrev StepEvaluation := Except EvaluationDenyReason Unit

/-- Whether a request asks for a mint. -/
def RequestedOperation.isMint (operation : RequestedOperation) : Bool :=
  operation == .capability .mint

/-- Whether a listed value is among the values of the context: a scan for a few values,
a lookup in a set for more. -/
def listsValue (selectorValues contextValues : List String) : Bool :=
  if contextValues.length ≤ 8 then
    selectorValues.any fun value => contextValues.any fun candidate => candidate == value
  else
    let contextSet := contextValues.toFinset
    selectorValues.any fun value => decide (value ∈ contextSet)

/-- Whether a selector matches a context: everything, a listed value, or an expression
that a value of the context satisfies. -/
def selectorMatchesContext (selector : ValidatedSelector) (context : SelectorContext) : Bool :=
  if selector.all then true
  else
    match context.valuesForKind selector.kind with
    | none => false
    | some contextValues =>
      if listsValue selector.values contextValues then true
      else selector.expressions.any fun expression =>
        contextValues.any fun value => expression.matchesCandidate value

/-- The allow list is checked first; the deny list is subtractive. -/
def evaluateScopeWithReasons (all : Bool) (allow deny : List ValidatedSelector)
    (context : SelectorContext) (deniedReason notAllowedReason : EvaluationDenyReason) :
    StepEvaluation := do
  Results.rejectIf
    (all = false ∧ (allow.any fun selector => selectorMatchesContext selector context) = false)
    notAllowedReason
  Results.rejectIf ((deny.any fun selector => selectorMatchesContext selector context) = true)
    deniedReason

/-- A context is in a scope when the scope allows it and does not deny it. What is neither
allowed nor denied is reported as not allowed. -/
def evaluateScope (scope : ValidatedScope) (context : SelectorContext) : StepEvaluation :=
  evaluateScopeWithReasons scope.all scope.allow scope.deny context .targetDenied
    .targetNotAllowed

/-- The entry of the audience authority decides, then its principal scope if it has one.
Without entries every audience is admitted. -/
def evaluateAudience (audienceScope : List ValidatedAudienceEntry)
    (request : EvaluationRequest) : StepEvaluation :=
  if audienceScope.isEmpty then .ok ()
  else do
    let entry ← Results.okOr
      (audienceScope.find? fun entry => entry.authorityId = request.audienceAuthority)
      .audienceNotAllowed
    evaluateScopeWithReasons entry.scope.all entry.scope.allow entry.scope.deny
      request.audienceContext .audienceDenied .audienceNotAllowed
    match entry.principalScope with
    | none => .ok ()
    | some principalScope =>
      evaluateScopeWithReasons principalScope.all principalScope.allow principalScope.deny
        request.audiencePrincipalContext .audiencePrincipalDenied .audiencePrincipalNotAllowed

/-- A capability of the type overrides the grant's; custom operations need none. They are a
matter of the operation scope alone. -/
def isCapabilityEnabled (grantCapabilities : ValidatedCapabilities)
    (resourceType : ValidatedResourceType) : RequestedOperation → Bool
  | .capability .recognize =>
    resourceType.capabilities.recognize.getD grantCapabilities.recognize
  | .capability .mint => resourceType.capabilities.mint.getD grantCapabilities.mint
  | .custom _ => true

/-- The name under which an operation scope lists a requested operation. A mint is listed as
create and not under its own name. -/
def RequestedOperation.requestedName : RequestedOperation → String
  | .capability .recognize => "recognize"
  | .capability .mint => "create"
  | .custom operation => operation.asStr

/-- Without an operation scope only recognition is allowed; otherwise the deny list is
checked before the allow list. -/
def isOperationAllowed (resourceType : ValidatedResourceType) (operation : RequestedOperation) :
    StepEvaluation :=
  match resourceType.operations with
  | none => Results.rejectIf (operation ≠ .capability .recognize) .operationDenied
  | some operationScope => do
    Results.rejectIf
      ((operationScope.deny.any fun denied => denied.value == operation.requestedName) = true)
      .operationDenied
    Results.rejectIf
      ((operationScope.allow.any fun allowed => allowed.value == operation.requestedName) = false)
      .operationDenied

/-- The limit on all mints of the type. The sum is saturated, so it never wraps below the
limit. -/
def evaluateMaxTotal (maxTotal : Option UInt64) (mintContext : MintContext) : StepEvaluation :=
  match maxTotal with
  | none => .ok ()
  | some maxTotal =>
    Results.rejectIf
      (U64.saturatingAdd mintContext.currentTotalMints mintContext.requestedQuantity > maxTotal)
      .mintTotalLimitReached

/-- The limit on the mints of one audience principal, which needs a principal context. Without a
limit the context is not asked for. -/
def evaluateMaxPerUser (maxPerUser : Option UInt64) (mintContext : MintContext)
    (request : EvaluationRequest) : StepEvaluation :=
  match maxPerUser with
  | none => .ok ()
  | some maxPerUser => do
    Results.rejectIf (request.audiencePrincipalContext.isEmpty = true)
      .missingAudiencePrincipalContext
    Results.rejectIf
      (U64.saturatingAdd mintContext.currentMintsForAudience mintContext.requestedQuantity >
        maxPerUser)
      .mintPerUserLimitReached

/-- Minting limits apply to mints only and need the counters in the request. The executor
supplies them; a request without them is refused when there is a limit. -/
def evaluateMintingConstraints (constraints : ValidatedMintingConstraints)
    (request : EvaluationRequest) : StepEvaluation :=
  if request.operation.isMint = false then .ok ()
  else
    match request.mintContext with
    | none =>
      Results.rejectIf (constraints.maxTotal.isSome ∨ constraints.maxPerUser.isSome)
        .missingMintContext
    | some mintContext => do
      evaluateMaxTotal constraints.maxTotal mintContext
      evaluateMaxPerUser constraints.maxPerUser mintContext request

/-- The audience list that applies to a type: its own unless it is empty. The two lists are never
combined. -/
def effectiveAudienceScope (grantDocument : NormalizedTrustGrantDocument)
    (resourceType : ValidatedResourceType) : List ValidatedAudienceEntry :=
  if resourceType.constraints.audienceScope.isEmpty then grantDocument.defaultAudienceScope
  else resourceType.constraints.audienceScope

/-- The steps that depend on the granted resource type. Capability and scope come before the
operation, and the limits of mints are last. -/
def evaluateResourceType (grantDocument : NormalizedTrustGrantDocument)
    (resourceType : ValidatedResourceType) (request : EvaluationRequest) : StepEvaluation := do
  Results.rejectIf
    (isCapabilityEnabled grantDocument.capabilities resourceType request.operation = false)
    .capabilityDisabled
  evaluateScopeWithReasons resourceType.all resourceType.allow resourceType.deny
    request.resource.selectors .resourceDenied .resourceNotAllowed
  isOperationAllowed resourceType request.operation
  evaluateAudience (effectiveAudienceScope grantDocument resourceType) request
  evaluateMintingConstraints resourceType.constraints.minting request

/-- Whether a revoked grant refuses the operation: it does unless it blocks minting
only and the operation is not a mint. -/
def revocationDenies (grant : VerifiedTrustGrant) (operation : RequestedOperation) : Bool :=
  match grant.document.revocation with
  | some revocation =>
    if revocation.postRevocationEffect = .blockMintingOnly then operation.isMint else true
  | none => true

/-- Stale revocation data refuses whatever the status says. A revoked grant still allows what its
policy does not block. -/
def evaluateRevocation (grant : VerifiedTrustGrant) (request : EvaluationRequest) :
    StepEvaluation :=
  match grant.metadata.revocation with
  | .nonRevocable => .ok ()
  | .checked record => do
    Results.rejectIf (record.isFreshAt request.evaluatedAt = false) .staleRevocationData
    Results.rejectIf
      (record.status = .revoked ∧ revocationDenies grant request.operation = true) .revoked

/-- Both ends of the period belong to it. A grant without a window is in its period at any
time. -/
def evaluateTimeWindow (window : Option ValidatedTimeWindow) (evaluatedAt : DateTime) :
    StepEvaluation :=
  match window with
  | none => .ok ()
  | some timeWindow => do
    Results.rejectIf (evaluatedAt < timeWindow.notBefore) .notYetValid
    Results.rejectIf (evaluatedAt > timeWindow.notAfter) .expired

/-- All steps in their order. The first step that refuses gives the reason, and no later step is
taken. -/
def evaluateSteps (grant : VerifiedTrustGrant) (request : EvaluationRequest) :
    StepEvaluation := do
  Results.rejectIf (request.operation.isMint = true ∧ request.selectorsVerified = false)
    .unverifiedSelectors
  evaluateRevocation grant request
  evaluateTimeWindow grant.document.globalTimeWindow request.evaluatedAt
  Results.rejectIf
    (request.originAuthority ≠ grant.document.ownershipAuthorityState.originAuthority)
    .originAuthorityMismatch
  evaluateScope grant.document.targetScope request.targetContext
  let resourceType ← Results.okOr
    (grant.document.resourceScope.get request.resource.resourceType) .resourceTypeNotGranted
  evaluateResourceType grant.document resourceType request

/-- `EvaluationEngine::evaluate_inner`. The steps end with the first refusal, which becomes the
reason of the decision. -/
def evaluateInner (grant : VerifiedTrustGrant) (request : EvaluationRequest)
    (trustgrantId : TrustGrantId) : EvaluationDecision :=
  match evaluateSteps grant request with
  | .ok () => .allow trustgrantId
  | .error reason => .deny trustgrantId reason

/-- `EvaluationEngine::evaluate`. -/
def evaluate (grant : VerifiedTrustGrant) (request : EvaluationRequest) : EvaluationOutcome :=
  ⟨evaluateInner grant request grant.id, request⟩

/-- A request is allowed exactly when every step passes. -/
theorem is_allowed_iff (grant : VerifiedTrustGrant) (request : EvaluationRequest) :
    (evaluate grant request).decision.isAllowed = true ↔ evaluateSteps grant request = .ok () := by
  unfold evaluate evaluateInner
  cases evaluateSteps grant request with
  | ok => exact iff_of_true rfl rfl
  | error reason => simp [EvaluationDecision.deny, EvaluationDecision.isAllowed]

/-- The decision is about the evaluated grant. -/
theorem decision_grant_id (grant : VerifiedTrustGrant) (request : EvaluationRequest) :
    (evaluate grant request).decision.trustgrantId = grant.id := by
  unfold evaluate evaluateInner
  cases evaluateSteps grant request with
  | ok => rfl
  | error reason => rfl

/-- A request to recognize a resource of the authority did:i for the target did:t. Closed
instances of later results use it. -/
def smallRecognition : EvaluationRequest :=
  Results.valueOf (do
    let target ← AuthorityId.new Text.asciiCaseMapping "did:t"
    let issuer ← AuthorityId.new Text.asciiCaseMapping "did:i"
    let resource ← ResourceContext.new "item"
    EvaluationRequest.new (.capability .recognize) (.existing (.new issuer "r")) target target
      resource smallInstant) (by decide +kernel)

end TrustGrant
