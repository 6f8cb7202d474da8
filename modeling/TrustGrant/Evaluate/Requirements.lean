import TrustGrant.Library.OrderedChecks
import TrustGrant.Evaluate.Engine

/-!
# What evaluation decides

The specification lists what a request must satisfy, each requirement with the reason
given when it is the first to fail. It speaks about contexts as sets of values for each
kind and about counters as exact numbers. The engine's decision is the verdict of trying
these requirements in order.
-/

namespace TrustGrant

open Rust Library Library.OrderedChecks

/-- A selector selects a context: everything, or a value the context gives its kind that
is listed or satisfies a listed expression. -/
def Selects (selector : ValidatedSelector) (context : SelectorContext) : Prop :=
  selector.all = true ∨ ∃ value ∈ context.valueSet selector.kind,
    value ∈ selector.values ∨
      ∃ expression ∈ selector.expressions, expression.matchesCandidate value = true

/-- Both ways of looking a value up find the values in common. A short list is searched, and a
long one is made a set first, which changes no membership. -/
theorem lists_value_iff (selectorValues contextValues : List String) :
    listsValue selectorValues contextValues = true ↔
      ∃ value ∈ contextValues, value ∈ selectorValues := by
  unfold listsValue
  split
  · simp only [List.any_eq_true, beq_iff_eq]
    constructor
    · rintro ⟨value, inSelector, candidate, inContext, rfl⟩
      exact ⟨candidate, inContext, inSelector⟩
    · rintro ⟨value, inContext, inSelector⟩
      exact ⟨value, inSelector, value, inContext, rfl⟩
  · simp only [List.any_eq_true, decide_eq_true_eq, List.mem_toFinset]
    constructor
    · rintro ⟨value, inSelector, inContext⟩
      exact ⟨value, inContext, inSelector⟩
    · rintro ⟨value, inContext, inSelector⟩
      exact ⟨value, inSelector, inContext⟩

/-- Matching is selection. A selector for everything matches, and one with values matches when
the context lists one of them for the kind. -/
theorem selector_matches_iff (selector : ValidatedSelector) (context : SelectorContext) :
    selectorMatchesContext selector context = true ↔ Selects selector context := by
  unfold selectorMatchesContext Selects
  cases everything : selector.all with
  | true => simp
  | false =>
    simp only [Bool.false_eq_true, if_false, false_or, SelectorContext.mem_value_set_iff]
    cases found : context.valuesForKind selector.kind with
    | none => simp
    | some contextValues =>
      simp only [Option.some.injEq, exists_eq_left']
      by_cases isListed : listsValue selector.values contextValues = true
      · obtain ⟨value, inContext, inSelector⟩ := (lists_value_iff _ _).mp isListed
        rw [if_pos isListed]
        exact iff_of_true rfl ⟨value, inContext, .inl inSelector⟩
      · rw [if_neg isListed]
        simp only [List.any_eq_true]
        constructor
        · rintro ⟨expression, inSelector, value, inContext, satisfied⟩
          exact ⟨value, inContext, .inr ⟨expression, inSelector, satisfied⟩⟩
        · rintro ⟨value, inContext, inSelector | ⟨expression, inSelector, satisfied⟩⟩
          · exact absurd ((lists_value_iff _ _).mpr ⟨value, inContext, inSelector⟩) isListed
          · exact ⟨expression, inSelector, value, inContext, satisfied⟩

/-- The allow side of a scope: everything, or a selector that selects the context. -/
def Allows (all : Bool) (allow : List ValidatedSelector) (context : SelectorContext) : Prop :=
  all = true ∨ ∃ selector ∈ allow, Selects selector context

/-- The deny side of a scope: a selector that selects the context. -/
def Denies (deny : List ValidatedSelector) (context : SelectorContext) : Prop :=
  ∃ selector ∈ deny, Selects selector context

/-- What a scope requires, the allow side first. Each side has the reason that its refusal is
given. -/
def scopeChecks (all : Bool) (allow deny : List ValidatedSelector) (context : SelectorContext)
    (deniedReason notAllowedReason : EvaluationDenyReason) : List (Check EvaluationDenyReason) :=
  [⟨Allows all allow context, notAllowedReason⟩, ⟨¬ Denies deny context, deniedReason⟩]

/-- Scope evaluation decides the two sides in this order. What is denied is refused even when it
is allowed as well. -/
theorem scope_decides (all : Bool) (allow deny : List ValidatedSelector)
    (context : SelectorContext) (deniedReason notAllowedReason : EvaluationDenyReason) :
    Decides (scopeChecks all allow deny context deniedReason notAllowedReason)
      (evaluateScopeWithReasons all allow deny context deniedReason notAllowedReason) := by
  have selected : ∀ selectors : List ValidatedSelector,
      (selectors.any fun selector => selectorMatchesContext selector context) = true ↔
        ∃ selector ∈ selectors, Selects selector context := by
    intro selectors
    simp only [List.any_eq_true, selector_matches_iff]
  refine decides_then [_] [_] _ _ (decides_reject_if _ _ _ ?_) (decides_reject_if _ _ _ ?_)
  · rw [Allows, ← selected allow]
    cases all <;> simp
  · rw [Denies, ← selected deny]

/-- The name under which an operation scope lists an operation. Minting is listed as create, and a
custom operation under its own name. -/
def Lists (name : String) : RequestedOperation → Prop
  | .capability .recognize => name = "recognize"
  | .capability .mint => name = "create"
  | .custom operation => name = operation.asStr

/-- The engine compares with this name. -/
theorem lists_iff (name : String) (operation : RequestedOperation) :
    Lists name operation ↔ name = operation.requestedName := by
  cases operation with
  | capability capability => cases capability <;> exact Iff.rfl
  | custom operation => exact Iff.rfl

section Requirements

variable (grant : VerifiedTrustGrant) (request : EvaluationRequest)

/-- The granted resource type the request names. -/
def granted : Option ValidatedResourceType :=
  grant.document.resourceScope.get request.resource.resourceType

/-- The audience list that applies to the request: the one of its type, or the default of the
grant when the type lists nobody. -/
def effectiveAudience : List ValidatedAudienceEntry :=
  match granted grant request with
  | none => []
  | some resourceType =>
    match resourceType.constraints.audienceScope with
    | [] => grant.document.defaultAudienceScope
    | entry :: rest => entry :: rest

/-- The entry of the request's audience authority in the effective list. -/
def audienceEntry : Option ValidatedAudienceEntry :=
  (effectiveAudience grant request).find? fun entry =>
    entry.authorityId = request.audienceAuthority

/-- Unverified selectors do not authorize minting. -/
def selectorChecks : List (Check EvaluationDenyReason) :=
  [⟨request.operation.isMint = true → request.selectorsVerified = true, .unverifiedSelectors⟩]

/-- Revocation data is fresh, and the grant is not revoked for this operation. A grant that
cannot be revoked requires nothing here. -/
def revocationChecks : List (Check EvaluationDenyReason) :=
  [⟨∀ record, grant.metadata.revocation = .checked record →
      request.evaluatedAt ≤ record.freshUntil, .staleRevocationData⟩,
    ⟨∀ record, grant.metadata.revocation = .checked record → record.status = .revoked →
      request.operation.isMint = false ∧ ∃ revocation ∈ grant.document.revocation,
        revocation.postRevocationEffect = .blockMintingOnly, .revoked⟩]

/-- The request lies in the inclusive time window. Each end has its own reason. -/
def timeChecks : List (Check EvaluationDenyReason) :=
  [⟨∀ window ∈ grant.document.globalTimeWindow, window.notBefore ≤ request.evaluatedAt,
      .notYetValid⟩,
    ⟨∀ window ∈ grant.document.globalTimeWindow, request.evaluatedAt ≤ window.notAfter,
      .expired⟩]

/-- The resource comes from the grant's origin, and the target is in scope. The origin is
compared first. -/
def targetChecks : List (Check EvaluationDenyReason) :=
  [⟨request.originAuthority = grant.document.ownershipAuthorityState.originAuthority,
      .originAuthorityMismatch⟩] ++
    scopeChecks grant.document.targetScope.all grant.document.targetScope.allow
      grant.document.targetScope.deny request.targetContext .targetDenied .targetNotAllowed

/-- The built-in capability is on, for the type or else for the grant. -/
def capabilityChecks : List (Check EvaluationDenyReason) :=
  [⟨∀ resourceType ∈ granted grant request, match request.operation with
      | .capability .recognize => resourceType.capabilities.recognize.getD
          grant.document.capabilities.recognize = true
      | .capability .mint => resourceType.capabilities.mint.getD
          grant.document.capabilities.mint = true
      | .custom _ => True, .capabilityDisabled⟩]

/-- The resource is in the scope of its type. -/
def resourceChecks : List (Check EvaluationDenyReason) :=
  [⟨∀ resourceType ∈ granted grant request,
      Allows resourceType.all resourceType.allow request.resource.selectors,
      .resourceNotAllowed⟩,
    ⟨∀ resourceType ∈ granted grant request,
      ¬ Denies resourceType.deny request.resource.selectors, .resourceDenied⟩]

/-- The operation is listed as allowed and not as denied; without an operation scope it
is recognition. -/
def operationChecks : List (Check EvaluationDenyReason) :=
  [⟨∀ resourceType ∈ granted grant request, match resourceType.operations with
      | none => request.operation = .capability .recognize
      | some scope => (∃ allowed ∈ scope.allow, Lists allowed.value request.operation) ∧
          ∀ denied ∈ scope.deny, ¬ Lists denied.value request.operation,
      .operationDenied⟩]

/-- The audience authority has an entry unless the list is empty, and the entry's scopes
admit the audience and the principal. -/
def audienceChecks : List (Check EvaluationDenyReason) :=
  [⟨effectiveAudience grant request ≠ [] → audienceEntry grant request ≠ none,
      .audienceNotAllowed⟩,
    ⟨∀ entry ∈ audienceEntry grant request,
      Allows entry.scope.all entry.scope.allow request.audienceContext, .audienceNotAllowed⟩,
    ⟨∀ entry ∈ audienceEntry grant request, ¬ Denies entry.scope.deny request.audienceContext,
      .audienceDenied⟩,
    ⟨∀ entry ∈ audienceEntry grant request, ∀ scope ∈ entry.principalScope,
      Allows scope.all scope.allow request.audiencePrincipalContext,
      .audiencePrincipalNotAllowed⟩,
    ⟨∀ entry ∈ audienceEntry grant request, ∀ scope ∈ entry.principalScope,
      ¬ Denies scope.deny request.audiencePrincipalContext, .audiencePrincipalDenied⟩]

/-- A counter after a mint, cut off at the largest counter value. -/
def countedAfter (counter quantity : UInt64) : Nat :=
  min (counter.toNat + quantity.toNat) (UInt64.size - 1)

/-- A mint within its limits: the counters are there when a limit needs them, no limit is
exceeded, and a limit per user comes with a principal context. -/
def mintChecks : List (Check EvaluationDenyReason) :=
  [⟨∀ resourceType ∈ granted grant request, request.operation.isMint = true →
      resourceType.constraints.minting.maxTotal ≠ none ∨
        resourceType.constraints.minting.maxPerUser ≠ none → request.mintContext ≠ none,
      .missingMintContext⟩,
    ⟨∀ resourceType ∈ granted grant request, request.operation.isMint = true →
      ∀ mint ∈ request.mintContext, ∀ maxTotal ∈ resourceType.constraints.minting.maxTotal,
        countedAfter mint.currentTotalMints mint.requestedQuantity ≤ maxTotal.toNat,
      .mintTotalLimitReached⟩,
    ⟨∀ resourceType ∈ granted grant request, request.operation.isMint = true →
      resourceType.constraints.minting.maxPerUser ≠ none →
        ∃ kind value, value ∈ request.audiencePrincipalContext.valueSet kind,
      .missingAudiencePrincipalContext⟩,
    ⟨∀ resourceType ∈ granted grant request, request.operation.isMint = true →
      ∀ mint ∈ request.mintContext, ∀ maxPerUser ∈ resourceType.constraints.minting.maxPerUser,
        countedAfter mint.currentMintsForAudience mint.requestedQuantity ≤ maxPerUser.toNat,
      .mintPerUserLimitReached⟩]

/-- Everything a request must satisfy, in the order in which it is tried. What depends on the
granted type is stated under the condition that there is one. -/
def requirements : List (Check EvaluationDenyReason) :=
  selectorChecks request ++ revocationChecks grant request ++ timeChecks grant request ++
    targetChecks grant request ++ [⟨granted grant request ≠ none, .resourceTypeNotGranted⟩] ++
    capabilityChecks grant request ++ resourceChecks grant request ++
    operationChecks grant request ++ audienceChecks grant request ++ mintChecks grant request

end Requirements

end TrustGrant
