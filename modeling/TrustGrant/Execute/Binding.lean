import TrustGrant.Execute.Versions

/-!
# What an applied call acted on

The resource of a call is named three times: by its binding, by the context that is
evaluated and by the grant. The request constructor, the evaluator and the executor each
compare two of them. Together they keep a call from changing any resource but the one it
was authorized for, and the executor from looking for a reference that is not there.

The result is a structure with one field for each thing that a caller may rely on. Each
field is proved from the exits of the call and from what the constructors made sure of,
without a look at the branches of the executor.
-/

namespace TrustGrant

open Rust Library InMemoryAtomicInventoryExecutor

/-- A request that mints is bound to a template with an identifier. The constructor refuses every
other binding, so that the executor need not. -/
theorem MutationRequest.template_of_mint (request : MutationRequest)
    (mint : request.isMint = true) :
    ∃ template templateId, request.request.resourceBinding = .mint template ∧
      template.templateId = some templateId := by
  obtain ⟨intentId, -, remaining⟩ := (Results.bind_ok_iff _ _ _).mp request.bound
  obtain ⟨⟨⟩, checked, -⟩ := (Results.bind_ok_iff _ _ _).mp remaining
  have operation : request.request.operation = .capability .mint := by
    simpa [isMint, RequestedOperation.isMint] using mint
  unfold checkBinding at checked
  rw [operation] at checked
  cases binding : request.request.resourceBinding with
  | existing resource =>
    rw [binding] at checked
    cases checked
  | mint template =>
    rw [binding] at checked
    obtain ⟨templateId, named⟩ :=
      Option.ne_none_iff_exists'.mp ((Results.reject_if_ok_iff _ _ _).mp checked)
    exact ⟨template, templateId, rfl, named⟩

/-- A request that does not mint is bound to an existing resource of the evaluated type, whose
version its caller saw. -/
theorem MutationRequest.resource_of_not_mint (request : MutationRequest)
    (notMint : request.isMint = false) :
    ∃ resource version, request.request.resourceBinding = .existing resource ∧
      resource.resourceType = some request.request.resource.resourceType ∧
      resource.expectedVersion = some version := by
  obtain ⟨resource, acted, checked⟩ := request.checked_of_not_mint notMint
  obtain ⟨resourceType, typed, remaining⟩ := (Results.bind_ok_iff _ _ _).mp checked
  obtain ⟨⟨⟩, sameType, versioned⟩ := (Results.bind_ok_iff _ _ _).mp remaining
  rw [Results.reject_if_ok_iff, not_not] at sameType
  obtain ⟨version, named⟩ :=
    Option.ne_none_iff_exists'.mp ((Results.reject_if_ok_iff _ _ _).mp versioned)
  refine ⟨resource, version, ?_, ?_, named⟩
  · unfold existingResource at acted
    split at acted
    · rename_i bound
      rw [bound, Option.some.inj acted]
    · cases acted
  · rw [(Results.ok_or_ok_iff _ _ _).mp typed, sameType]

/-- The key of the resource that a request is bound to. -/
def boundKey (request : MutationRequest) (resource : ResourceRef) : ResourceKey :=
  ⟨resource.originAuthority, request.request.resource.resourceType, resource.resourceId⟩

/-- The executor finds the key of the bound resource. -/
theorem existing_key_of_bound (request : MutationRequest) (resource : ResourceRef)
    (bound : request.request.resourceBinding = .existing resource)
    (typed : resource.resourceType = some request.request.resource.resourceType) :
    existingKey request = .ok (some (boundKey request resource)) := by
  simp only [existingKey, MutationRequest.existingResource, bound, Option.mapM_some,
    ResourceKey.tryFrom, typed]
  rfl

/-- A mint has no existing resource. -/
theorem existing_key_of_template (request : MutationRequest) (template : TemplateRef)
    (bound : request.request.resourceBinding = .mint template) :
    existingKey request = .ok none := by
  simp only [existingKey, MutationRequest.existingResource, bound]
  rfl

/-- The executor finds the key of every request, and with it an expected version. This is what
the constructor of mutation requests makes sure of. -/
theorem key_and_version (request : MutationRequest) :
    existingKey request = .ok none ∨
      ∃ key version, existingKey request = .ok (some key) ∧
        request.expectedVersion = some version := by
  cases mint : request.isMint with
  | true =>
    obtain ⟨template, -, bound, -⟩ := request.template_of_mint mint
    exact .inl (existing_key_of_template request template bound)
  | false =>
    obtain ⟨resource, version, bound, typed, named⟩ := request.resource_of_not_mint mint
    refine .inr ⟨_, version, existing_key_of_bound request resource bound typed, ?_⟩
    simp only [MutationRequest.expectedVersion, MutationRequest.existingResource, bound,
      Option.bind_some, named]

/-- A version check with an expected version fails for an unknown resource only. The other error
of this step asks for the expected version, which is there. -/
theorem stale_version_error (state : InMemoryExecutionState) (request : MutationRequest)
    (key : ResourceKey) (version : UInt64) (expected : request.expectedVersion = some version)
    (problem : InMemoryExecutionError)
    (failed : staleVersion state request (some key) = .error problem) :
    problem = .unknownResource := by
  have expects : request.existingResource.bind ResourceRef.expectedVersion = some version :=
    expected
  simp only [staleVersion, expects] at failed
  cases stored : state.resourceVersions.lookup key with
  | none =>
    rw [stored] at failed
    cases failed
    rfl
  | some current =>
    rw [stored] at failed
    cases failed

/-- Advancing a counter fails by overflow only. -/
theorem advance_error (value delta : UInt64) (problem : InMemoryExecutionError)
    (failed : advance value delta = .error problem) : problem = .counterOverflow :=
  Results.ok_or_error _ _ _ failed

/-- Nothing that is advanced after the mutation asks for a reference. The steps are inverted one
by one, and none of their errors is this one. -/
theorem advance_counters_typed (state : InMemoryExecutionState) (grant : VerifiedTrustGrant)
    (request : MutationRequest) (key : Option ResourceKey) (quantity : UInt64) :
    advanceCounters state grant request key quantity ≠ .error .missingTypedResourceReference := by
  intro failed
  unfold advanceCounters at failed
  split at failed
  · rcases (Results.bind_error_iff _ _ _).mp failed with overflow | ⟨total, -, failed⟩
    · cases advance_error _ _ _ overflow
    · rcases (Results.bind_error_iff _ _ _).mp failed with overflow | ⟨perPrincipal, -, failed⟩
      · cases advance_error _ _ _ overflow
      · cases failed
  · split at failed
    · rcases (Results.bind_error_iff _ _ _).mp failed with unknown | ⟨current, -, failed⟩
      · cases Results.ok_or_error _ _ _ unknown
      · rcases (Results.bind_error_iff _ _ _).mp failed with overflow | ⟨version, -, failed⟩
        · cases advance_error _ _ _ overflow
        · cases failed
    · cases failed

variable {ε τ : Type*}

/-- After the checks, only the mutation asks for a reference. An error is the one of the closure
or one of the commit, and the commit has no such error. -/
theorem typed_unless_mutation (state : InMemoryExecutionState) (grant : VerifiedTrustGrant)
    (request : MutationRequest) (key : Option ResourceKey) (apply : Mutation ε τ)
    (environment : ε)
    (failed : (applyMutation state grant request key apply environment).1 =
      .error .missingTypedResourceReference) :
    (apply ⟨state.recordAudit (authorize state grant request)⟩ (authorize state grant request)
      environment).1 = .error .missingTypedResourceReference := by
  unfold applyMutation at failed
  rcases ran : apply ⟨state.recordAudit (authorize state grant request)⟩
    (authorize state grant request) environment with ⟨answered, transaction, left⟩
  simp only [ran] at failed
  cases answered with
  | error problem => simpa using failed
  | ok value =>
    simp only at failed
    split at failed
    · rename_i problem committing
      cases failed
      rcases (Results.bind_error_iff _ _ _).mp committing with advancing | ⟨advanced, -, failed⟩
      · exact absurd advancing (advance_counters_typed _ _ _ _ _)
      · cases failed
    · cases failed

/-- The executor asks for a reference that is not there only where the mutation does. The checks
before the mutation find the key and the version that the constructor made sure of. -/
theorem typed_unless_asked (state : InMemoryExecutionState) (grant : VerifiedTrustGrant)
    (request : MutationRequest) (apply : Mutation ε τ) (environment : ε)
    (failed : (authorizeAndExecute state grant request apply environment).1 =
      .error .missingTypedResourceReference) :
    (apply ⟨state.recordAudit (authorize state grant request)⟩ (authorize state grant request)
      environment).1 = .error .missingTypedResourceReference := by
  unfold authorizeAndExecute at failed
  split at failed
  · split at failed <;> cases failed
  · dsimp only at failed
    split at failed
    · cases failed
    · rcases key_and_version request with keyed | ⟨key, version, keyed, expected⟩
      · simp only [keyed, staleVersion] at failed
        exact typed_unless_mutation state grant request none apply environment failed
      · simp only [keyed] at failed
        cases checked : staleVersion state request (some key) with
        | error problem =>
          rw [checked] at failed
          cases stale_version_error state request key version expected problem checked
          cases failed
        | ok seen =>
          rw [checked] at failed
          cases seen with
          | some currentVersion => cases failed
          | none => exact typed_unless_mutation state grant request _ apply environment failed

/-- What an allowed request is about: a granted type, and the origin of the grant. Both are
compared by early steps of the evaluation, which all have to pass. -/
theorem granted_of_allowed (state : InMemoryExecutionState) (grant : VerifiedTrustGrant)
    (request : MutationRequest)
    (allowed : (authorize state grant request).outcome.decision.isAllowed = true) :
    (∃ granted, grant.document.resourceScope.get request.request.resource.resourceType =
        some granted) ∧
      request.request.resourceBinding.originAuthority =
        grant.document.ownershipAuthorityState.originAuthority := by
  obtain ⟨mintContext, evaluated⟩ := evaluation_request_fields state grant request
  have steps := (is_allowed_iff grant (evaluationRequest state grant request)).mp allowed
  rw [evaluated] at steps
  simp only [evaluateSteps, Results.bind_ok_iff, Results.reject_if_ok_iff, exists_const,
    Results.ok_or_ok_iff, not_not] at steps
  obtain ⟨-, -, -, -, -, sameOrigin, -, -, granted, isGranted, -⟩ := steps
  exact ⟨⟨granted, isGranted⟩, sameOrigin⟩

/-- The mutation leaves the transaction as it is. -/
def PreservesTransaction (apply : Mutation ε τ) : Prop :=
  ∀ transaction authorization environment,
    (apply transaction authorization environment).2.1 = transaction

/-- The call changed the version of exactly this key. Every other key has the version it had, or
none. -/
def OnlyVersionChanged (before after : InMemoryExecutionState) (key : ResourceKey) : Prop :=
  ∀ other, after.resourceVersions.lookup other ≠ before.resourceVersions.lookup other ↔
    other = key

/-- What a call on a request does, beside its answer: the mint context that it unwraps is
there, it asks for no reference itself, and it acts on the bound resource or template. -/
structure BindingSound (state : InMemoryExecutionState) (grant : VerifiedTrustGrant)
    (request : MutationRequest) (apply : Mutation ε τ) (environment : ε) : Prop where
  unwraps : (MintContext.new ((state.totalMints.lookup (mintKeys grant request).1).getD 0)
      ((state.mintsForPrincipal.lookup (mintKeys grant request).2).getD 0)).withQuantity
        request.requestedQuantity = .ok (runtimeMintContext state grant request)
  typed : (authorizeAndExecute state grant request apply environment).1 =
      .error .missingTypedResourceReference →
    (apply ⟨state.recordAudit (authorize state grant request)⟩ (authorize state grant request)
      environment).1 = .error .missingTypedResourceReference
  existing : ∀ authorization value,
    (authorizeAndExecute state grant request apply environment).1 =
        .ok (.applied authorization value) →
      request.isMint = false →
        ∃ resource granted, request.request.resourceBinding = .existing resource ∧
          resource.resourceType = some authorization.request.resource.resourceType ∧
          grant.document.resourceScope.get authorization.request.resource.resourceType =
            some granted ∧
          resource.originAuthority = grant.document.ownershipAuthorityState.originAuthority ∧
          (PreservesTransaction apply → OnlyVersionChanged state
            (authorizeAndExecute state grant request apply environment).2.1
            ⟨grant.document.ownershipAuthorityState.originAuthority,
              authorization.request.resource.resourceType, resource.resourceId⟩)
  mint : ∀ authorization value,
    (authorizeAndExecute state grant request apply environment).1 =
        .ok (.applied authorization value) →
      request.isMint = true →
        ∃ template templateId, request.request.resourceBinding = .mint template ∧
          template.templateId = some templateId ∧
          template.originAuthority = grant.document.ownershipAuthorityState.originAuthority ∧
          (PreservesTransaction apply → ∀ key,
            (authorizeAndExecute state grant request apply
              environment).2.1.resourceVersions.lookup key = state.resourceVersions.lookup key)

/-- An applied call was allowed, and commits on what the mutation left. No other exit answers
with a value. -/
theorem committed_of_applied (state : InMemoryExecutionState) (grant : VerifiedTrustGrant)
    (request : MutationRequest) (apply : Mutation ε τ) (environment : ε)
    (authorization : MutationAuthorization) (value : τ)
    (applied : (authorizeAndExecute state grant request apply environment).1 =
      .ok (.applied authorization value)) :
    authorization = authorize state grant request ∧
      authorization.outcome.decision.isAllowed = true ∧
      ∃ transaction left, apply ⟨state.recordAudit authorization⟩ authorization environment =
          (.ok value, transaction, left) ∧
        Committed grant request authorization transaction.state
          (authorizeAndExecute state grant request apply environment).2.1 := by
  have left := exit state grant request apply environment
  rw [applied] at left
  cases left with
  | applied value transaction left after fresh allowed ran commits =>
    exact ⟨rfl, allowed, transaction, _, ran, commits⟩

/-- The versions after an applied call whose mutation preserves the transaction. A key has
another version than before exactly when the request advances it, as the sum differs from the
stored version. -/
theorem versions_of_applied (state : InMemoryExecutionState) (grant : VerifiedTrustGrant)
    (request : MutationRequest) (apply : Mutation ε τ) (environment : ε)
    (authorization : MutationAuthorization) (value : τ)
    (applied : (authorizeAndExecute state grant request apply environment).1 =
      .ok (.applied authorization value))
    (preserves : PreservesTransaction apply) (key : ResourceKey) :
    (authorizeAndExecute state grant request apply environment).2.1.resourceVersions.lookup key ≠
        state.resourceVersions.lookup key ↔
      AdvancesVersion request key := by
  obtain ⟨-, -, transaction, left, ran, commits⟩ :=
    committed_of_applied state grant request apply environment authorization value applied
  have unchanged : transaction = ⟨state.recordAudit authorization⟩ := by
    rw [← preserves ⟨state.recordAudit authorization⟩ authorization environment, ran]
  subst unchanged
  constructor
  · intro changed
    by_contra kept
    exact changed (commits.versions key kept)
  · intro advances same
    obtain ⟨before, version, stored, stepped, larger⟩ := commits.advanced key advances
    rw [stepped] at same
    obtain rfl := Option.some.inj (same.trans stored)
    omega

/-- The bindings of every call are sound. Each clause is a fact about one group of exits: the
constructor of the mint context accepts what it is given, an error about a reference comes from
the mutation, and an applied call was allowed, so the evaluation compared its binding with the
grant. -/
theorem binding_sound (state : InMemoryExecutionState) (grant : VerifiedTrustGrant)
    (request : MutationRequest) (apply : Mutation ε τ) (environment : ε) :
    BindingSound state grant request apply environment where
  unwraps := runtime_mint_context_accepted state grant request
  typed := typed_unless_asked state grant request apply environment
  existing authorization value applied notMint := by
    obtain ⟨rfl, allowed, -⟩ :=
      committed_of_applied state grant request apply environment authorization value applied
    obtain ⟨⟨granted, isGranted⟩, sameOrigin⟩ := granted_of_allowed state grant request allowed
    obtain ⟨resource, version, bound, typed, -⟩ := request.resource_of_not_mint notMint
    obtain ⟨mintContext, evaluated⟩ := evaluation_request_fields state grant request
    have sameType : (authorize state grant request).request.resource.resourceType =
        request.request.resource.resourceType := by
      show (evaluationRequest state grant request).resource.resourceType = _
      rw [evaluated]
    rw [bound] at sameOrigin
    change resource.originAuthority = _ at sameOrigin
    rw [sameType]
    refine ⟨resource, granted, bound, typed, isGranted, sameOrigin, fun preserves other => ?_⟩
    rw [versions_of_applied state grant request apply environment _ value applied preserves other,
      AdvancesVersion, existing_key_of_bound request resource bound typed, boundKey, sameOrigin]
    constructor
    · rintro ⟨-, keyed⟩
      exact (Option.some.inj (Except.ok.inj keyed)).symm
    · rintro rfl
      exact ⟨notMint, rfl⟩
  mint authorization value applied mint := by
    obtain ⟨rfl, allowed, -⟩ :=
      committed_of_applied state grant request apply environment authorization value applied
    obtain ⟨-, sameOrigin⟩ := granted_of_allowed state grant request allowed
    obtain ⟨template, templateId, bound, named⟩ := request.template_of_mint mint
    rw [bound] at sameOrigin
    refine ⟨template, templateId, bound, named, sameOrigin, fun preserves key => ?_⟩
    by_contra changed
    obtain ⟨notMint, -⟩ := (versions_of_applied state grant request apply environment _ value
      applied preserves key).mp changed
    rw [mint] at notMint
    cases notMint

/-- The executor that knows the item r at version 5. -/
def smallInventory : InMemoryExecutionState :=
  (registerResource .empty smallItem 5).2

/-- The applied recognition of the item r changes the version of this item only. Its closure
preserves the transaction, so the version is changed by the commit alone. -/
theorem small_recognition_bound :
    ∃ authorization value resource granted,
      (authorizeAndExecute smallInventory smallGrant smallRecognitionOfFive unchanged ()).1 =
        .ok (.applied authorization value) ∧
      smallRecognitionOfFive.request.resourceBinding = .existing resource ∧
      smallGrant.document.resourceScope.get authorization.request.resource.resourceType =
        some granted ∧
      OnlyVersionChanged smallInventory
        (authorizeAndExecute smallInventory smallGrant smallRecognitionOfFive unchanged ()).2.1
        ⟨smallGrant.document.ownershipAuthorityState.originAuthority,
          authorization.request.resource.resourceType, resource.resourceId⟩ := by
  obtain ⟨authorization, value, answered⟩ := Answer.applied_of_kind
    (step (smallInventory, ()) (.execute smallGrant smallRecognitionOfFive unchanged)).2
    (by decide +kernel)
  have applied := Answer.executed.inj answered
  obtain ⟨resource, granted, bound, -, isGranted, -, only⟩ :=
    (binding_sound smallInventory smallGrant smallRecognitionOfFive unchanged ()).existing
      authorization value applied (by decide +kernel)
  exact ⟨authorization, value, resource, granted, applied, bound, isGranted,
    only fun _ _ _ => rfl⟩

end TrustGrant
