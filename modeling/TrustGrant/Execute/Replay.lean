import TrustGrant.Execute.Calls

/-!
# Intents over whole runs

When mutations keep the processed intents, the processed map holds exactly the
authorizations of the applied calls of the record, one for each intent. A later call under
an applied intent therefore finds its authorization and stops there, and a call under any
other intent is evaluated in the state it finds.

The invariant of the runs is an equation between what the record says was applied and what
is stored. The clauses of the result are read off it, each for an arbitrary later call.
-/

namespace TrustGrant

open Rust Library InMemoryAtomicInventoryExecutor

variable {ε τ : Type*}

/-- The authorizations applied under an intent in a record. -/
def appliedIn (intentId : IntentId) (record : List (Call ε τ × Answer τ)) :
    List MutationAuthorization :=
  record.filterMap (appliedUnder intentId)

/-- A step adds to the processed intents exactly the authorization it applied, and applies
none under an intent that was processed before. -/
theorem step_processed (machine : InMemoryExecutionState × ε) (call : Call ε τ)
    (keeps : KeepsProcessed machine call) (intentId : IntentId) :
    appliedIn intentId [(call, (step machine call).2)] =
        (match machine.1.processed.lookup intentId with
          | some _ => []
          | none => ((step machine call).1.1.processed.lookup intentId).toList) ∧
      ∀ previous, machine.1.processed.lookup intentId = some previous →
        (step machine call).1.1.processed.lookup intentId = some previous := by
  have untouched : ∀ (after : InMemoryExecutionState × ε) (answer : Answer τ),
      step machine call = (after, answer) → appliedUnder intentId (call, answer) = none →
      after.1.processed = machine.1.processed →
      appliedIn intentId [(call, (step machine call).2)] =
        (match machine.1.processed.lookup intentId with
          | some _ => []
          | none => ((step machine call).1.1.processed.lookup intentId).toList) ∧
      ∀ previous, machine.1.processed.lookup intentId = some previous →
        (step machine call).1.1.processed.lookup intentId = some previous := by
    intro after answer stepped other same
    rw [stepped, same]
    refine ⟨?_, fun previous found => found⟩
    cases found : machine.1.processed.lookup intentId <;> simp [appliedIn, other]
  cases call with
  | register resource version =>
    obtain ⟨versions, result, stepped⟩ := step_register (τ := τ) machine resource version
    exact untouched _ _ stepped rfl rfl
  | execute grant request apply =>
    obtain ⟨result, after, left, stepped, exits⟩ := step_exit machine grant request apply
    cases exits with
    | duplicate previous found same => exact untouched _ _ stepped rfl rfl
    | conflict previous found different => exact untouched _ _ stepped rfl rfl
    | denied fresh refused => exact untouched _ _ stepped rfl rfl
    | rejected problem fresh allowed => exact untouched _ _ stepped rfl rfl
    | stale currentVersion fresh allowed => exact untouched _ _ stepped rfl rfl
    | rolledBack problem answered transaction left fresh allowed ran =>
      exact untouched _ _ stepped rfl rfl
    | applied value transaction left after fresh allowed ran commits =>
      have kept : transaction.state.processed = machine.1.processed := by
        have handed := keeps (congrArg (fun reached => reached.2.kind) stepped)
        rw [leftBehind, ran] at handed
        exact handed
      have processed := commits.processed
      rw [kept] at processed
      rw [stepped]
      simp only [processed, HashMap.lookup_insert_eq]
      by_cases asked : intentId = request.intentId
      · subst asked
        rw [fresh]
        simp [appliedIn, appliedUnder]
      · rw [if_neg asked]
        refine ⟨?_, fun previous found => found⟩
        cases found : machine.1.processed.lookup intentId <;>
          simp [appliedIn, appliedUnder, Ne.symm asked]

/-- The processed intents are exactly the applied intents of the record. Stated as an equation of
lists, which says at once that an intent is applied at most once and which authorization was kept
for it. -/
theorem history_processed (environment : ε) (calls : List (Call ε τ))
    (keeps : AllKeepProcessed environment calls) (intentId : IntentId) :
    appliedIn intentId (history environment calls).2 =
      ((history environment calls).1.1.processed.lookup intentId).toList := by
  refine Runs.run_invariant_along step (.empty, environment) KeepsProcessed
    (fun record machine => appliedIn intentId record =
      (machine.1.processed.lookup intentId).toList) rfl ?_ calls keeps
  intro record machine call kept invariant
  obtain ⟨added, stays⟩ := step_processed machine call kept intentId
  have grown : appliedIn intentId (record ++ [(call, (step machine call).2)]) =
      appliedIn intentId record ++ appliedIn intentId [(call, (step machine call).2)] :=
    List.filterMap_append
  rw [grown, invariant, added]
  cases found : machine.1.processed.lookup intentId with
  | none => rfl
  | some previous =>
    rw [stays previous found]
    rfl

/-- An authorization applied in a run is found under its intent. -/
theorem processed_of_applied (environment : ε) (calls : List (Call ε τ))
    (keeps : AllKeepProcessed environment calls) (intentId : IntentId)
    (authorization : MutationAuthorization)
    (applied : authorization ∈ appliedIn intentId (history environment calls).2) :
    (history environment calls).1.1.processed.lookup intentId = some authorization := by
  rw [history_processed environment calls keeps intentId, Option.mem_toList] at applied
  exact applied

/-- What two requests under one intent share when they ask for the same mutation. The contexts
and the quantity are not among it. -/
structure SameMutation (request other : EvaluationRequest) : Prop where
  operation : request.operation = other.operation
  resourceBinding : request.resourceBinding = other.resourceBinding
  targetAuthority : request.targetAuthority = other.targetAuthority
  audienceAuthority : request.audienceAuthority = other.audienceAuthority
  resourceType : request.resource.resourceType = other.resource.resourceType

/-- Two requests give every kind the same values in each of their contexts. The order of
insertion and the spelling of built-in kinds do not matter. -/
structure SameSelections (request other : EvaluationRequest) : Prop where
  target : SelectorContext.SameSelectors request.targetContext other.targetContext
  audience : SelectorContext.SameSelectors request.audienceContext other.audienceContext
  principal : SelectorContext.SameSelectors request.audiencePrincipalContext
    other.audiencePrincipalContext
  resource : SelectorContext.SameSelectors request.resource.selectors other.resource.selectors

/-- Whether two requests ask for the same mutation is decided field by field. So the small runs
can be evaluated. -/
instance (request other : EvaluationRequest) : Decidable (SameMutation request other) :=
  decidable_of_iff (request.operation = other.operation ∧
      request.resourceBinding = other.resourceBinding ∧
      request.targetAuthority = other.targetAuthority ∧
      request.audienceAuthority = other.audienceAuthority ∧
      request.resource.resourceType = other.resource.resourceType)
    ⟨fun ⟨operation, binding, target, audience, resourceType⟩ =>
      ⟨operation, binding, target, audience, resourceType⟩,
    fun ⟨operation, binding, target, audience, resourceType⟩ =>
      ⟨operation, binding, target, audience, resourceType⟩⟩

/-- Whether two requests select the same is decided kind by kind. -/
instance (request other : EvaluationRequest) : Decidable (SameSelections request other) :=
  decidable_of_iff
    (SelectorContext.SameSelectors request.targetContext other.targetContext ∧
      SelectorContext.SameSelectors request.audienceContext other.audienceContext ∧
      SelectorContext.SameSelectors request.audiencePrincipalContext
        other.audiencePrincipalContext ∧
      SelectorContext.SameSelectors request.resource.selectors other.resource.selectors)
    ⟨fun ⟨target, audience, principal, resource⟩ => ⟨target, audience, principal, resource⟩,
    fun ⟨target, audience, principal, resource⟩ => ⟨target, audience, principal, resource⟩⟩

/-- Two requests carry contexts that are equal as they are stored. This is more than that they
select the same. -/
def sameStoredContexts (request other : EvaluationRequest) : Bool :=
  request.targetContext == other.targetContext && request.audienceContext == other.audienceContext
    && request.audiencePrincipalContext == other.audiencePrincipalContext
    && request.resource.selectors == other.resource.selectors

/-- The comparison of requests splits into equal parts and stored contexts. The contexts are the
part that depends on the order of insertions. -/
theorem same_mutation_intent_iff (request other : EvaluationRequest) :
    request.sameMutationIntent other = true ↔
      SameMutation request other ∧ sameStoredContexts request other = true := by
  have resource : (request.resource == other.resource) =
      (request.resource.resourceType == other.resource.resourceType &&
        request.resource.selectors == other.resource.selectors) := rfl
  simp only [EvaluationRequest.sameMutationIntent, sameStoredContexts, resource,
    Bool.and_eq_true, beq_iff_eq]
  constructor
  · rintro ⟨⟨⟨⟨⟨⟨⟨operation, binding⟩, target⟩, targetContext⟩, audience⟩, audienceContext⟩,
      principal⟩, resourceType, selectors⟩
    exact ⟨⟨operation, binding, target, audience, resourceType⟩,
      ⟨⟨targetContext, audienceContext⟩, principal⟩, selectors⟩
  · rintro ⟨⟨operation, binding, target, audience, resourceType⟩,
      ⟨⟨targetContext, audienceContext⟩, principal⟩, selectors⟩
    exact ⟨⟨⟨⟨⟨⟨⟨operation, binding⟩, target⟩, targetContext⟩, audience⟩, audienceContext⟩,
      principal⟩, resourceType, selectors⟩

/-- Contexts that are equal as they are stored select the same. The converse fails, which is
where retries are misjudged. -/
theorem same_selections_of_stored (request other : EvaluationRequest)
    (same : sameStoredContexts request other = true) : SameSelections request other := by
  simp only [sameStoredContexts, Bool.and_eq_true] at same
  obtain ⟨⟨⟨target, audience⟩, principal⟩, resource⟩ := same
  exact ⟨SelectorContext.same_selectors_of_same_entries _ _ target,
    SelectorContext.same_selectors_of_same_entries _ _ audience,
    SelectorContext.same_selectors_of_same_entries _ _ principal,
    SelectorContext.same_selectors_of_same_entries _ _ resource⟩

/-- The answers of a call whose intent was not processed: each is made on the evaluation
of the request in the state that the call found. -/
inductive EvaluatedAfresh (state : InMemoryExecutionState) (grant : VerifiedTrustGrant)
    (request : MutationRequest) :
    Except InMemoryExecutionError (AtomicExecutionResult τ) → Prop
  | denied (refused : (authorize state grant request).outcome.decision.isAllowed = false) :
      EvaluatedAfresh state grant request (.ok (.denied (authorize state grant request)))
  | stale (currentVersion : UInt64)
      (allowed : (authorize state grant request).outcome.decision.isAllowed = true) :
      EvaluatedAfresh state grant request
        (.ok (.stale (authorize state grant request) currentVersion))
  | failed (problem : InMemoryExecutionError)
      (allowed : (authorize state grant request).outcome.decision.isAllowed = true) :
      EvaluatedAfresh state grant request (.error problem)
  | applied (value : τ)
      (allowed : (authorize state grant request).outcome.decision.isAllowed = true) :
      EvaluatedAfresh state grant request
        (.ok (.applied (authorize state grant request) value))

/-- A call under a processed intent changes nothing, the environment of its closure
included, and answers by comparing requests. -/
theorem step_of_processed (machine : InMemoryExecutionState × ε) (grant : VerifiedTrustGrant)
    (request : MutationRequest) (apply : Mutation ε τ) (previous : MutationAuthorization)
    (found : machine.1.processed.lookup request.intentId = some previous) :
    step machine (.execute grant request apply) = (machine, .executed (.ok
      (if previous.matchesRequest grant.id request then .duplicate previous
        else .intentConflict request.intentId))) := by
  simp only [step, authorizeAndExecute, found]
  split <;> rfl

/-- A call under an intent that was not processed is evaluated afresh. It is the other half of
replay: what is not remembered is decided anew. -/
theorem step_of_unprocessed (machine : InMemoryExecutionState × ε)
    (grant : VerifiedTrustGrant) (request : MutationRequest) (apply : Mutation ε τ)
    (fresh : machine.1.processed.lookup request.intentId = none) :
    ∃ result, (step machine (.execute grant request apply)).2 = .executed result ∧
      EvaluatedAfresh machine.1 grant request result := by
  obtain ⟨result, after, left, stepped, exits⟩ := step_exit machine grant request apply
  refine ⟨result, by rw [stepped], ?_⟩
  cases exits with
  | duplicate previous found same => simp [fresh] at found
  | conflict previous found different => simp [fresh] at found
  | denied fresh refused => exact .denied refused
  | rejected problem fresh allowed => exact .failed problem allowed
  | stale currentVersion fresh allowed => exact .stale currentVersion allowed
  | rolledBack problem answered transaction left fresh allowed ran => exact .failed problem allowed
  | applied value transaction left after fresh allowed ran commits => exact .applied value allowed

/-- At most one call is applied under an intent, and afterwards every call under it is
answered from the first one's authorization without running its closure. A duplicate is
the same mutation under the same grant, and a call under an intent that was never applied
is evaluated in the state it finds.

Proof: in runs of preserving calls the processed intents are exactly the applied intents of the
record, so a call is answered by a lookup. Each part unfolds this lookup for a later call. -/
theorem at_most_once_and_stable_replay (environment : ε) (calls : List (Call ε τ))
    (preserving : ∀ call ∈ calls, call.Preserving) (intentId : IntentId) :
    (appliedIn intentId (history environment calls).2).length ≤ 1 ∧
    (∀ authorization ∈ appliedIn intentId (history environment calls).2,
      ∀ grant request (apply : Mutation ε τ), request.intentId = intentId →
        step (history environment calls).1 (.execute grant request apply) =
            ((history environment calls).1, .executed (.ok (.duplicate authorization))) ∨
          step (history environment calls).1 (.execute grant request apply) =
            ((history environment calls).1, .executed (.ok (.intentConflict intentId)))) ∧
    (∀ grant request (apply : Mutation ε τ) authorization, request.intentId = intentId →
      (step (history environment calls).1 (.execute grant request apply)).2 =
        .executed (.ok (.duplicate authorization)) →
      authorization ∈ appliedIn intentId (history environment calls).2 ∧
        authorization.outcome.decision.trustgrantId = grant.id ∧
        SameMutation authorization.request request.request ∧
        SameSelections authorization.request request.request) ∧
    (appliedIn intentId (history environment calls).2 = [] →
      ∀ grant request (apply : Mutation ε τ), request.intentId = intentId →
        ∃ result, (step (history environment calls).1 (.execute grant request apply)).2 =
            .executed result ∧
          EvaluatedAfresh (history environment calls).1.1 grant request result) := by
  have keeps := all_keep_processed_of_preserving environment calls preserving
  have processed := history_processed environment calls keeps intentId
  refine ⟨?_, ?_, ?_, ?_⟩
  · rw [processed]
    cases (history environment calls).1.1.processed.lookup intentId <;> simp
  · rintro authorization applied grant request apply rfl
    have found := processed_of_applied environment calls keeps _ authorization applied
    rw [step_of_processed _ grant request apply authorization found]
    split
    · exact .inl rfl
    · exact .inr rfl
  · rintro grant request apply authorization rfl answered
    cases found : (history environment calls).1.1.processed.lookup request.intentId with
    | none =>
      obtain ⟨result, afresh, evaluated⟩ := step_of_unprocessed _ grant request apply found
      rw [afresh, Answer.executed.injEq] at answered
      subst answered
      cases evaluated
    | some previous =>
      rw [step_of_processed _ grant request apply previous found] at answered
      simp only [Answer.executed.injEq, Except.ok.injEq] at answered
      split at answered
      · rename_i same
        cases answered
        simp only [MutationAuthorization.matchesRequest, Bool.and_eq_true, beq_iff_eq,
          same_mutation_intent_iff] at same
        obtain ⟨sameGrant, sameMutation, stored⟩ := same
        refine ⟨?_, sameGrant, sameMutation, same_selections_of_stored _ _ stored⟩
        rw [processed, found]
        simp
      · cases answered
  · rintro never grant request apply rfl
    apply step_of_unprocessed
    rw [processed] at never
    exact Option.toList_eq_nil_iff.mp never

/-- A mint that was applied is answered as a duplicate, from its authorization, when it is called
again after other calls. These are a mint of another principal and a denied one; the answer
leaves the state as it is. -/
theorem small_mint_replayed :
    ∃ authorization, step (history () smallRun).1
        (.execute smallGrant smallMintByActor unchanged) =
      ((history () smallRun).1, .executed (.ok (.duplicate authorization))) := by
  have once : (appliedIn smallMintByActor.intentId (history () smallRun).2).length = 1 := by
    decide +kernel
  have kind : (step (history () smallRun).1
      (.execute smallGrant smallMintByActor unchanged)).2.kind = some .duplicate := by
    decide +kernel
  obtain ⟨authorization, only⟩ := List.length_eq_one_iff.mp once
  obtain ⟨-, replayed, -, -⟩ := at_most_once_and_stable_replay () smallRun
    (small_calls_preserving _) smallMintByActor.intentId
  rcases replayed authorization (by rw [only]; exact List.mem_singleton.mpr rfl)
    smallGrant smallMintByActor unchanged rfl with duplicate | conflict
  · exact ⟨authorization, duplicate⟩
  · rw [conflict] at kind
    cases kind

end TrustGrant
