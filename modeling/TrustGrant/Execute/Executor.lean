import TrustGrant.Execute.Mutation
import TrustGrant.Evaluate.StableKey
import TrustGrant.Rust.Unsigned
import Mathlib.Data.List.AList

/-!
# The in-memory atomic executor

The executor keeps resource versions, mint counters, processed intents and an audit
log. One call checks the intent, evaluates the grant on the counters of the state, checks
the expected version, hands a copy of the whole state to the caller's mutation and, when
the mutation succeeds, advances counters or version on the copy and makes it the state.

A mutation is the caller's closure: it may change the transaction and the caller's own
environment, and it answers with a value or an error. The environment is threaded
through every call, so a closure that runs can be told from one that does not.
-/

namespace TrustGrant

open Rust Library

/-- `HashMap`: the executor only looks keys up and inserts, so an association list
without duplicate keys serves. -/
abbrev HashMap (κ : Type) (ν : Type) := AList fun _ : κ => ν

/-- A lookup after an insertion. It is the form in which maps are rewritten, with one case split
for the key. -/
theorem HashMap.lookup_insert_eq {κ ν : Type} [DecidableEq κ] (map : HashMap κ ν)
    (inserted asked : κ) (value : ν) :
    (map.insert inserted value).lookup asked =
      if asked = inserted then some value else map.lookup asked := by
  by_cases same : asked = inserted
  · rw [if_pos same, same]
    exact AList.lookup_insert map
  · rw [if_neg same]
    exact AList.lookup_insert_ne same

/-- Result of attempting one mutation in an atomic execution boundary. -/
inductive AtomicExecutionResult (τ : Type*) where
  | applied (authorization : MutationAuthorization) (value : τ)
  | denied (authorization : MutationAuthorization)
  | duplicate (authorization : MutationAuthorization)
  | stale (authorization : MutationAuthorization) (currentVersion : UInt64)
  | intentConflict (intentId : IntentId)

/-- Failure from the in-memory reference executor. -/
inductive InMemoryExecutionError where
  | unknownResource
  | missingTypedResourceReference
  | counterOverflow
deriving DecidableEq

/-- The canonical identity of a registered resource. Two references with one key name one
resource, whatever version they expect. -/
structure ResourceKey where
  originAuthority : AuthorityId
  resourceType : ResourceTypeName
  resourceId : String
deriving DecidableEq

/-- A resource is stored under its origin, type and identifier; a reference without a type has no
key. -/
def ResourceKey.tryFrom (resource : ResourceRef) : Except InMemoryExecutionError ResourceKey :=
  match resource.resourceType with
  | none => .error .missingTypedResourceReference
  | some resourceType => .ok ⟨resource.originAuthority, resourceType, resource.resourceId⟩

/-- The key of the counter of all mints of a type under a grant. The grant enters with its
identifier only. -/
structure MintTotalKey where
  grantId : TrustGrantId
  resourceType : ResourceTypeName
deriving DecidableEq

/-- The key of the counter of one audience principal. The principal enters as the text of its
context. -/
structure MintPrincipalKey where
  totalKey : MintTotalKey
  principalContext : String
deriving DecidableEq

/-- What the executor holds: the requests by intent, the counters, the versions and the audit
log. -/
structure InMemoryExecutionState where
  resourceVersions : HashMap ResourceKey UInt64
  totalMints : HashMap MintTotalKey UInt64
  mintsForPrincipal : HashMap MintPrincipalKey UInt64
  processed : HashMap IntentId MutationAuthorization
  auditLog : List MutationAuthorization

namespace InMemoryExecutionState

/-- `InMemoryExecutionState::default`. -/
def empty : InMemoryExecutionState := ⟨∅, ∅, ∅, ∅, []⟩

/-- Append one record to the audit log. -/
def recordAudit (state : InMemoryExecutionState) (authorization : MutationAuthorization) :
    InMemoryExecutionState :=
  { state with auditLog := state.auditLog ++ [authorization] }

end InMemoryExecutionState

/-- The transaction handed to a mutation carries the whole state. -/
structure InMemoryExecutionTransaction where
  state : InMemoryExecutionState

namespace InMemoryExecutionTransaction

/-- `InMemoryExecutionTransaction::default`. -/
def empty : InMemoryExecutionTransaction := ⟨.empty⟩

/-- The current version of one registered resource. -/
def resourceVersion (transaction : InMemoryExecutionTransaction) (resource : ResourceRef) :
    Option UInt64 :=
  match ResourceKey.tryFrom resource with
  | .error _ => none
  | .ok key => transaction.state.resourceVersions.lookup key

end InMemoryExecutionTransaction

/-- The caller's closure: it may change the transaction it is handed and its own
environment, and answers with a value or an error. -/
abbrev Mutation (ε τ : Type*) :=
  InMemoryExecutionTransaction → MutationAuthorization → ε →
    Except InMemoryExecutionError τ × InMemoryExecutionTransaction × ε

namespace InMemoryAtomicInventoryExecutor

/-- Registers a current canonical resource state. A version that was stored before is
replaced. -/
def registerResource (state : InMemoryExecutionState) (resource : ResourceRef)
    (version : UInt64) : Except InMemoryExecutionError Unit × InMemoryExecutionState :=
  match ResourceKey.tryFrom resource with
  | .error problem => (.error problem, state)
  | .ok key =>
    (.ok (), { state with resourceVersions := state.resourceVersions.insert key version })

/-- The keys of the two counters that a mint advances. They are made from the grant's identifier
and the request. -/
def mintKeys (grant : VerifiedTrustGrant) (request : MutationRequest) :
    MintTotalKey × MintPrincipalKey :=
  let totalKey : MintTotalKey :=
    ⟨grant.lineage.trustgrantId, request.request.resource.resourceType⟩
  (totalKey, ⟨totalKey, request.request.audiencePrincipalContext.stableKey⟩)

/-- Counters and versions are advanced with overflow detection. -/
def advance (value delta : UInt64) : Except InMemoryExecutionError UInt64 :=
  Results.okOr (U64.checkedAdd value delta) .counterOverflow

/-- The counters of the state with the quantity the caller asked for. An absent counter is
zero. -/
def runtimeMintContext (state : InMemoryExecutionState) (grant : VerifiedTrustGrant)
    (request : MutationRequest) : MintContext where
  currentTotalMints := (state.totalMints.lookup (mintKeys grant request).1).getD 0
  currentMintsForAudience := (state.mintsForPrincipal.lookup (mintKeys grant request).2).getD 0
  requestedQuantity := request.requestedQuantity
  positive := request.requested_quantity_positive

/-- The context made from the counters by `MintContext::with_quantity`, whose error case
the source unwraps. -/
theorem runtime_mint_context_accepted (state : InMemoryExecutionState)
    (grant : VerifiedTrustGrant) (request : MutationRequest) :
    (MintContext.new ((state.totalMints.lookup (mintKeys grant request).1).getD 0)
      ((state.mintsForPrincipal.lookup (mintKeys grant request).2).getD 0)).withQuantity
        request.requestedQuantity = .ok (runtimeMintContext state grant request) :=
  MintContext.with_quantity_positive _ _ request.requested_quantity_positive

/-- The request that is evaluated: a mint's counters come from the state. Whatever counters the
caller supplied are replaced. -/
def evaluationRequest (state : InMemoryExecutionState) (grant : VerifiedTrustGrant)
    (request : MutationRequest) : EvaluationRequest :=
  if request.isMint then
    request.request.withMintContext (runtimeMintContext state grant request)
  else request.request

/-- The authorization of a call in a state. -/
def authorize (state : InMemoryExecutionState) (grant : VerifiedTrustGrant)
    (request : MutationRequest) : MutationAuthorization :=
  .new request (evaluate grant (evaluationRequest state grant request))

/-- The key of the existing resource a request acts on. -/
def existingKey (request : MutationRequest) : Except InMemoryExecutionError (Option ResourceKey) :=
  request.existingResource.mapM ResourceKey.tryFrom

/-- The current version, when it is not the one the request expects. Without a key there is
nothing to compare; an unknown resource and a missing expectation are errors. -/
def staleVersion (state : InMemoryExecutionState) (request : MutationRequest) :
    Option ResourceKey → Except InMemoryExecutionError (Option UInt64)
  | none => .ok none
  | some key => do
    let currentVersion ← Results.okOr (state.resourceVersions.lookup key) .unknownResource
    let expectedVersion ← Results.okOr
      (request.existingResource.bind ResourceRef.expectedVersion) .missingTypedResourceReference
    return if expectedVersion ≠ currentVersion then some currentVersion else none

/-- Advance the total counter, then the counter of the principal. An overflow of either is an
error. -/
def advanceMints (state : InMemoryExecutionState) (keys : MintTotalKey × MintPrincipalKey)
    (quantity : UInt64) : Except InMemoryExecutionError InMemoryExecutionState := do
  let total ← advance ((state.totalMints.lookup keys.1).getD 0) quantity
  let state := { state with totalMints := state.totalMints.insert keys.1 total }
  let perPrincipal ← advance ((state.mintsForPrincipal.lookup keys.2).getD 0) quantity
  return { state with mintsForPrincipal := state.mintsForPrincipal.insert keys.2 perPrincipal }

/-- Advance the version of the resource acted upon. The addition is checked, so a version never
wraps. -/
def advanceVersion (state : InMemoryExecutionState) (key : ResourceKey) :
    Except InMemoryExecutionError InMemoryExecutionState := do
  let currentVersion ← Results.okOr (state.resourceVersions.lookup key) .unknownResource
  let version ← advance currentVersion 1
  return { state with resourceVersions := state.resourceVersions.insert key version }

/-- A mint advances its counters and a change of an existing resource its version. The two never
meet in one request. -/
def advanceCounters (state : InMemoryExecutionState) (grant : VerifiedTrustGrant)
    (request : MutationRequest) (key : Option ResourceKey) (quantity : UInt64) :
    Except InMemoryExecutionError InMemoryExecutionState :=
  if request.isMint then advanceMints state (mintKeys grant request) quantity
  else
    match key with
    | some key => advanceVersion state key
    | none => .ok state

/-- What the executor does to the transaction after the mutation: it advances counters or
a version and records the intent as processed. -/
def commit (state : InMemoryExecutionState) (grant : VerifiedTrustGrant)
    (request : MutationRequest) (key : Option ResourceKey) (quantity : UInt64)
    (authorization : MutationAuthorization) :
    Except InMemoryExecutionError InMemoryExecutionState := do
  let state ← advanceCounters state grant request key quantity
  return { state with processed := state.processed.insert request.intentId authorization }

variable {ε τ : Type*}

/-- Run the mutation on a copy of the state, then commit the copy. When either fails the state is
left as it was, while the environment is the closure's own. -/
def applyMutation (state : InMemoryExecutionState) (grant : VerifiedTrustGrant)
    (request : MutationRequest) (key : Option ResourceKey) (apply : Mutation ε τ)
    (environment : ε) :
    Except InMemoryExecutionError (AtomicExecutionResult τ) × InMemoryExecutionState × ε :=
  let authorization := authorize state grant request
  let quantity :=
    ((evaluationRequest state grant request).mintContext.map MintContext.requestedQuantity).getD 1
  let (answered, transaction, environment) :=
    apply ⟨state.recordAudit authorization⟩ authorization environment
  match answered with
  | .error problem => (.error problem, state, environment)
  | .ok value =>
    match commit transaction.state grant request key quantity authorization with
    | .error problem => (.error problem, state, environment)
    | .ok committed => (.ok (.applied authorization value), committed, environment)

/-- `AtomicInventoryExecutor::authorize_and_execute`. The checks are those of the source, in its
order: the intent, the evaluation, the key, the version, the mutation. -/
def authorizeAndExecute (state : InMemoryExecutionState) (grant : VerifiedTrustGrant)
    (request : MutationRequest) (apply : Mutation ε τ) (environment : ε) :
    Except InMemoryExecutionError (AtomicExecutionResult τ) × InMemoryExecutionState × ε :=
  match state.processed.lookup request.intentId with
  | some previous =>
    if previous.matchesRequest grant.id request then
      (.ok (.duplicate previous), state, environment)
    else (.ok (.intentConflict request.intentId), state, environment)
  | none =>
    let authorization := authorize state grant request
    if authorization.outcome.decision.isAllowed = false then
      (.ok (.denied authorization), state.recordAudit authorization, environment)
    else
      match existingKey request with
      | .error problem => (.error problem, state, environment)
      | .ok key =>
        match staleVersion state request key with
        | .error problem => (.error problem, state, environment)
        | .ok (some currentVersion) =>
          (.ok (.stale authorization currentVersion), state.recordAudit authorization,
            environment)
        | .ok none => applyMutation state grant request key apply environment

end InMemoryAtomicInventoryExecutor

end TrustGrant
