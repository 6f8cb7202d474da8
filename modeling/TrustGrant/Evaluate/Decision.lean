import TrustGrant.Evaluate.Requirements

/-!
# The engine decides the requirements

Each step of the engine decides its group of requirements, and the steps in sequence
decide the whole list. The decision of a grant on a request follows.

The proof follows the engine step by step. Each step has a lemma that says which
requirements it tries and in which order, and the rule for sequences puts the lemmas
together; the engine is unfolded nowhere else.
-/

namespace TrustGrant

open Rust Library Library.OrderedChecks

/-- A conditional refusal, read as a requirement. -/
theorem implies_iff_not_and (condition verified : Bool) :
    (condition = true → verified = true) ↔ ¬ (condition = true ∧ verified = false) := by
  cases condition <;> cases verified <;> simp

/-- Freshness is tried before the status. A grant that cannot be revoked has no state to try, and
a revoked one is refused as its policy says: for every operation, or for mints only. -/
theorem revocation_decides (grant : VerifiedTrustGrant) (request : EvaluationRequest) :
    Decides (revocationChecks grant request) (evaluateRevocation grant request) := by
  unfold revocationChecks evaluateRevocation
  cases state : grant.metadata.revocation with
  | nonRevocable =>
    apply (accepted_iff _).mpr
    simp
  | checked record =>
    simp only [VerifiedRevocationState.checked.injEq, forall_eq']
    refine decides_then [_] [_] _ _ (decides_reject_if _ _ _ ?_) (decides_reject_if _ _ _ ?_)
    · simp [RevocationRecord.isFreshAt]
    · unfold revocationDenies
      cases grant.document.revocation with
      | none => simp
      | some revocation =>
        by_cases mintingOnly : revocation.postRevocationEffect = .blockMintingOnly <;>
          simp [mintingOnly]

/-- The beginning of the window is tried before its end. Both ends belong to the window. -/
theorem time_decides (grant : VerifiedTrustGrant) (request : EvaluationRequest) :
    Decides (timeChecks grant request)
      (evaluateTimeWindow grant.document.globalTimeWindow request.evaluatedAt) := by
  unfold timeChecks evaluateTimeWindow
  cases grant.document.globalTimeWindow with
  | none =>
    apply (accepted_iff _).mpr
    simp
  | some window =>
    simp only [Option.mem_def, Option.some.injEq, forall_eq']
    exact decides_then [_] [_] _ _ (decides_reject_if _ _ _ not_lt.symm)
      (decides_reject_if _ _ _ not_lt.symm)

/-- The operation scope decides the operation. A list that denies is tried before one that
allows, and an operation that is in neither is refused for the same reason, so that the two
checks are one. -/
theorem operation_decides (grant : VerifiedTrustGrant) (request : EvaluationRequest)
    (resourceType : ValidatedResourceType) (found : granted grant request = some resourceType) :
    Decides (operationChecks grant request)
      (isOperationAllowed resourceType request.operation) := by
  simp only [operationChecks, found, Option.mem_def, Option.some.injEq, forall_eq',
    isOperationAllowed, lists_iff]
  cases resourceType.operations with
  | none => exact decides_reject_if _ _ _ not_not.symm
  | some scope =>
    have deniedIff : (scope.deny.any fun denied =>
        denied.value == request.operation.requestedName) = true ↔
          ∃ denied ∈ scope.deny, denied.value = request.operation.requestedName := by
      simp
    have allowedIff : (scope.allow.any fun allowed =>
        allowed.value == request.operation.requestedName) = true ↔
          ∃ allowed ∈ scope.allow, allowed.value = request.operation.requestedName := by
      simp
    have notDenied : (∀ denied ∈ scope.deny, ¬ denied.value = request.operation.requestedName) ↔
        ¬ (scope.deny.any fun denied =>
          denied.value == request.operation.requestedName) = true := by
      rw [deniedIff]
      simp
    simp only [← allowedIff, notDenied]
    -- Both refusals carry one reason, so the two checks are one requirement.
    by_cases denied : (scope.deny.any fun denied =>
        denied.value == request.operation.requestedName) = true
    · rw [Results.rejectIf, if_pos denied]
      exact Verdict.refused ⟨_, _⟩ [] fun required => required.2 denied
    · rw [Results.rejectIf, if_neg denied]
      refine decides_reject_if _ _ _ ?_
      simp [denied]

/-- The audience entry is looked up, then its scopes are tried. Without entries every audience is
let through; with entries the request needs one of its own authority. -/
theorem audience_list_decides (audience : List ValidatedAudienceEntry)
    (request : EvaluationRequest) (entry : Option ValidatedAudienceEntry)
    (looked : entry = audience.find? fun entry => entry.authorityId = request.audienceAuthority) :
    Decides
      [⟨audience ≠ [] → entry ≠ none, .audienceNotAllowed⟩,
        ⟨∀ found ∈ entry, Allows found.scope.all found.scope.allow request.audienceContext,
          .audienceNotAllowed⟩,
        ⟨∀ found ∈ entry, ¬ Denies found.scope.deny request.audienceContext, .audienceDenied⟩,
        ⟨∀ found ∈ entry, ∀ scope ∈ found.principalScope,
          Allows scope.all scope.allow request.audiencePrincipalContext,
          .audiencePrincipalNotAllowed⟩,
        ⟨∀ found ∈ entry, ∀ scope ∈ found.principalScope,
          ¬ Denies scope.deny request.audiencePrincipalContext, .audiencePrincipalDenied⟩]
      (evaluateAudience audience request) := by
  unfold evaluateAudience
  cases audience with
  | nil =>
    subst looked
    apply (accepted_iff _).mpr
    simp
  | cons first rest =>
    rw [← looked]
    simp only [ne_eq, List.cons_ne_nil, not_false_eq_true, forall_const, List.isEmpty_cons,
      Bool.false_eq_true, if_false]
    apply decides_lookup
    rintro found rfl
    simp only [Option.mem_def, Option.some.injEq, forall_eq']
    refine decides_then [_, _] [_, _] _ _ (scope_decides _ _ _ _ _ _) ?_
    cases found.principalScope with
    | none =>
      apply (accepted_iff _).mpr
      simp
    | some principalScope =>
      simp only [Option.some.injEq, forall_eq']
      exact scope_decides _ _ _ _ _ _

/-- The audience entry is tried against the list that applies to the type. A type with audiences
of its own overrides the list of the grant, as the requirements spell it out. -/
theorem audience_decides (grant : VerifiedTrustGrant) (request : EvaluationRequest)
    (resourceType : ValidatedResourceType) (found : granted grant request = some resourceType) :
    Decides (audienceChecks grant request)
      (evaluateAudience (effectiveAudienceScope grant.document resourceType) request) := by
  have effective : effectiveAudience grant request =
      effectiveAudienceScope grant.document resourceType := by
    unfold effectiveAudience effectiveAudienceScope
    rw [found]
    simp only
    cases resourceType.constraints.audienceScope with
    | nil => rfl
    | cons entry rest => rfl
  unfold audienceChecks
  rw [← effective]
  exact audience_list_decides _ request _ rfl

/-- A limit refuses exactly when the saturated counter is above it. -/
theorem counted_after_le_iff (counter quantity limit : UInt64) :
    countedAfter counter quantity ≤ limit.toNat ↔
      ¬ U64.saturatingAdd counter quantity > limit := by
  rw [gt_iff_lt, UInt64.not_lt, UInt64.le_iff_toNat_le, U64.saturating_add_to_nat, countedAfter]

/-- A context without entries gives no kind a value. Every entry has a value, which the type of
entries carries as a proof. -/
theorem is_empty_iff (context : SelectorContext) :
    context.isEmpty = false ↔ ∃ kind value, value ∈ context.valueSet kind := by
  unfold SelectorContext.isEmpty
  constructor
  · intro nonempty
    cases entries : context.entries with
    | nil => simp [entries] at nonempty
    | cons entry rest =>
      obtain ⟨value, present⟩ := List.exists_mem_of_ne_nil entry.values entry.present
      exact ⟨entry.kind, value, entry, by simp [entries], SelectorKind.same_kind_refl _, present⟩
  · rintro ⟨kind, value, entry, listed, -, -⟩
    cases entries : context.entries with
    | nil => simp [entries] at listed
    | cons first rest => rfl

/-- The total limit refuses what would exceed it. The engine adds with saturation, and the
requirement is stated with that sum. -/
theorem max_total_decides (maxTotal : Option UInt64) (mintContext : MintContext) :
    Decides
      [⟨∀ limit, maxTotal = some limit →
          countedAfter mintContext.currentTotalMints mintContext.requestedQuantity ≤ limit.toNat,
        .mintTotalLimitReached⟩]
      (evaluateMaxTotal maxTotal mintContext) := by
  cases maxTotal with
  | none =>
    apply (accepted_iff _).mpr
    simp
  | some limit =>
    simp only [Option.some.injEq, forall_eq']
    exact decides_reject_if _ _ _ (counted_after_le_iff _ _ _)

/-- The limit per user asks for a principal context and refuses what would exceed it. Without a
limit neither is asked, so both checks hold. -/
theorem max_per_user_decides (maxPerUser : Option UInt64) (mintContext : MintContext)
    (request : EvaluationRequest) :
    Decides
      [⟨maxPerUser ≠ none →
          ∃ kind value, value ∈ request.audiencePrincipalContext.valueSet kind,
        .missingAudiencePrincipalContext⟩,
        ⟨∀ limit, maxPerUser = some limit →
          countedAfter mintContext.currentMintsForAudience mintContext.requestedQuantity ≤
            limit.toNat, .mintPerUserLimitReached⟩]
      (evaluateMaxPerUser maxPerUser mintContext request) := by
  cases maxPerUser with
  | none =>
    apply (accepted_iff _).mpr
    simp
  | some limit =>
    simp only [ne_eq, reduceCtorEq, not_false_eq_true, forall_const, Option.some.injEq,
      forall_eq']
    refine decides_then [_] [_] _ _ (decides_reject_if _ _ _ ?_)
      (decides_reject_if _ _ _ (counted_after_le_iff _ _ _))
    rw [← is_empty_iff, Bool.not_eq_true]

/-- The limits of a mint are tried in the order total, principal context, per user. What does not
mint has no limits, and every check holds for it. -/
theorem mint_decides (grant : VerifiedTrustGrant) (request : EvaluationRequest)
    (resourceType : ValidatedResourceType) (found : granted grant request = some resourceType) :
    Decides (mintChecks grant request)
      (evaluateMintingConstraints resourceType.constraints.minting request) := by
  simp only [mintChecks, found, Option.mem_def, Option.some.injEq, forall_eq',
    evaluateMintingConstraints]
  cases request.operation.isMint with
  | false =>
    apply (accepted_iff _).mpr
    simp
  | true =>
    simp only [Bool.true_eq_false, if_false, forall_const]
    cases request.mintContext with
    | none =>
      simp only [Option.isSome_iff_ne_none]
      by_cases limited : resourceType.constraints.minting.maxTotal ≠ none ∨
          resourceType.constraints.minting.maxPerUser ≠ none
      · rw [Results.rejectIf, if_pos limited]
        exact Verdict.refused ⟨_, _⟩ _ fun required => required limited rfl
      · rw [Results.rejectIf, if_neg limited]
        rw [not_or, not_ne_iff, not_ne_iff] at limited
        apply (accepted_iff _).mpr
        simp [limited.1, limited.2]
    | some mintContext =>
      refine Verdict.passed ⟨_, _⟩ _ _ (fun _ => Option.some_ne_none _) ?_
      simp only [Option.some.injEq, forall_eq']
      exact decides_then [_] [_, _] _ _ (max_total_decides _ mintContext)
        (max_per_user_decides _ mintContext request)

/-- The steps on the granted type decide their groups in order. They are put together by the rule
for sequences, one step at a time. -/
theorem resource_type_decides (grant : VerifiedTrustGrant) (request : EvaluationRequest)
    (resourceType : ValidatedResourceType) (found : granted grant request = some resourceType) :
    Decides (capabilityChecks grant request ++ (resourceChecks grant request ++
        (operationChecks grant request ++ (audienceChecks grant request ++
          mintChecks grant request))))
      (evaluateResourceType grant.document resourceType request) := by
  have capability : Decides (capabilityChecks grant request)
      (Results.rejectIf (isCapabilityEnabled grant.document.capabilities resourceType
        request.operation = false) .capabilityDisabled) := by
    simp only [capabilityChecks, found, Option.mem_def, Option.some.injEq, forall_eq']
    refine decides_reject_if _ _ _ ?_
    unfold isCapabilityEnabled
    generalize request.operation = operation
    rcases operation with (_ | _) | _ <;> simp
  have resource : Decides (resourceChecks grant request)
      (evaluateScopeWithReasons resourceType.all resourceType.allow resourceType.deny
        request.resource.selectors .resourceDenied .resourceNotAllowed) := by
    simp only [resourceChecks, found, Option.mem_def, Option.some.injEq, forall_eq']
    exact scope_decides _ _ _ _ _ _
  exact decides_then _ _ _ _ capability (decides_then _ _ _ _ resource
    (decides_then _ _ _ _ (operation_decides grant request resourceType found)
      (decides_then _ _ _ _ (audience_decides grant request resourceType found)
        (mint_decides grant request resourceType found))))

/-- The steps in sequence decide all requirements. Every requirement of a group is stated under
the conditions of its step, and the rule for sequences joins the groups. -/
theorem steps_decide (grant : VerifiedTrustGrant) (request : EvaluationRequest) :
    Decides (requirements grant request) (evaluateSteps grant request) := by
  have typeSteps : Decides
      (⟨granted grant request ≠ none, .resourceTypeNotGranted⟩ ::
        (capabilityChecks grant request ++ (resourceChecks grant request ++
          (operationChecks grant request ++ (audienceChecks grant request ++
            mintChecks grant request)))))
      (Results.okOr (granted grant request) .resourceTypeNotGranted >>= fun resourceType =>
        evaluateResourceType grant.document resourceType request) :=
    decides_lookup _ _ _ _ fun resourceType found =>
      resource_type_decides grant request resourceType found
  have selectors : Decides (selectorChecks request)
      (Results.rejectIf (request.operation.isMint = true ∧ request.selectorsVerified = false)
        .unverifiedSelectors) :=
    decides_reject_if _ _ _ (implies_iff_not_and _ _)
  have origin := decides_reject_if
    (request.originAuthority = grant.document.ownershipAuthorityState.originAuthority)
    (request.originAuthority ≠ grant.document.ownershipAuthorityState.originAuthority)
    EvaluationDenyReason.originAuthorityMismatch not_not.symm
  have target := scope_decides grant.document.targetScope.all grant.document.targetScope.allow
    grant.document.targetScope.deny request.targetContext .targetDenied .targetNotAllowed
  have inOrder := decides_then _ _ _ _ selectors (decides_then _ _ _ _
    (revocation_decides grant request) (decides_then _ _ _ _ (time_decides grant request)
      (decides_then _ _ _ _ origin (decides_then _ _ _ _ target typeSteps))))
  simp only [requirements, targetChecks, List.append_assoc, List.cons_append,
    List.nil_append] at inOrder ⊢
  exact inOrder

/-- A request is allowed exactly when it satisfies every requirement. An allowed decision is the
verdict that accepts, and the verdict of a list of checks is unique. -/
theorem allowed_iff_requirements (grant : VerifiedTrustGrant) (request : EvaluationRequest) :
    (evaluate grant request).decision.isAllowed = true ↔ Hold (requirements grant request) := by
  have decided := steps_decide grant request
  rw [is_allowed_iff, ← accepted_iff]
  unfold Decides at decided
  constructor
  · intro passed
    rw [passed] at decided
    exact decided
  · intro allHold
    have unique := verdict_unique _ _ _ decided allHold
    cases result : evaluateSteps grant request with
    | ok => rfl
    | error reason =>
      rw [result] at unique
      cases unique

attribute [ext] EvaluationDecision

/-- The reason of a decision is the verdict of the requirements. An allowed decision has no
reason, which is the verdict that accepts. -/
theorem deny_reason_verdict (grant : VerifiedTrustGrant) (request : EvaluationRequest) :
    Verdict (requirements grant request) (evaluate grant request).decision.denyReason := by
  have decided := steps_decide grant request
  rw [Decides] at decided
  unfold evaluate evaluateInner
  cases result : evaluateSteps grant request with
  | ok => rwa [result] at decided
  | error reason => rwa [result] at decided

/-- Decisions with the same grant identifier and the same verdict are the same. The decision
consists of nothing else. -/
theorem decision_congr (first second : VerifiedTrustGrant) (request other : EvaluationRequest)
    (sameId : first.id = second.id)
    (same : List.Forall₂ SameCheck (requirements first request) (requirements second other)) :
    (evaluate first request).decision = (evaluate second other).decision := by
  have sameReason := verdict_unique _ _ _
    (verdict_congr _ _ same _ (deny_reason_verdict first request))
    (deny_reason_verdict second other)
  have named : (evaluate first request).decision.trustgrantId =
      (evaluate second other).decision.trustgrantId := by
    rw [decision_grant_id, decision_grant_id, sameId]
  exact EvaluationDecision.ext named sameReason

/-- The decision names the evaluated grant, allows exactly when every requirement holds, and
otherwise gives the reason of the first requirement that fails. Each step of the evaluation
decides its group of requirements, and the steps in sequence decide the groups in sequence.

Proof: verdicts are unique, so the decision is allowed exactly when the verdict accepts, which it
does when every requirement holds. -/
theorem evaluate_decides_requirements (grant : VerifiedTrustGrant)
    (request : EvaluationRequest) :
    (evaluate grant request).decision.trustgrantId = grant.id ∧
      ((evaluate grant request).decision.isAllowed = true ↔ Hold (requirements grant request)) ∧
      Verdict (requirements grant request) (evaluate grant request).decision.denyReason := by
  refine ⟨decision_grant_id grant request, allowed_iff_requirements grant request, ?_⟩
  have decided := steps_decide grant request
  unfold Decides at decided
  unfold evaluate evaluateInner
  cases result : evaluateSteps grant request with
  | ok =>
    rw [result] at decided
    exact decided
  | error reason =>
    rw [result] at decided
    exact decided

end TrustGrant
