import TrustGrant.Execute.Replay

/-!
# Which retries are recognised

A later call under an applied intent and grant is compared with the applied request by its
stored contexts, which keep the order of insertion, and without its quantity. It is
recognised as the claimed retry exactly when these two do not matter.

The comparison of the executor is split into the parts that agree with what a caller would
call the same request and the two that do not. The result is then an equivalence for every
later call, whatever the calls in between were.
-/

namespace TrustGrant

open Rust Library InMemoryAtomicInventoryExecutor

variable {ε τ : Type*}

/-- The counters of the state do not take part in the comparison of requests. -/
theorem same_mutation_intent_evaluated (state : InMemoryExecutionState)
    (grant : VerifiedTrustGrant) (request : MutationRequest) (other : EvaluationRequest) :
    (evaluationRequest state grant request).sameMutationIntent other =
      request.request.sameMutationIntent other := by
  obtain ⟨mintContext, evaluated⟩ := evaluation_request_fields state grant request
  rw [evaluated]
  rfl

/-- An authorization made for a request matches a later one under the same grant exactly
when the requests compare equal. -/
theorem matches_request_iff (state : InMemoryExecutionState) (grant : VerifiedTrustGrant)
    (request : MutationRequest) (grantId : TrustGrantId) (retry : MutationRequest)
    (sameGrant : grant.id = grantId) :
    (authorize state grant request).matchesRequest grantId retry =
      request.request.sameMutationIntent retry.request := by
  have decided : (authorize state grant request).outcome.decision.trustgrantId = grant.id :=
    decision_grant_id grant _
  have compared : (authorize state grant request).request.sameMutationIntent retry.request =
      request.request.sameMutationIntent retry.request :=
    same_mutation_intent_evaluated state grant request retry.request
  simp [MutationAuthorization.matchesRequest, decided, compared, sameGrant]

/-- The authorization of an applied answer is the one its call was made on. The call stands
somewhere in the record, and the state is the one before it. -/
theorem applied_authorization (environment : ε) (calls : List (Call ε τ))
    (grant : VerifiedTrustGrant) (request : MutationRequest) (apply : Mutation ε τ)
    (authorization : MutationAuthorization) (value : τ)
    (applied : (.execute grant request apply, .executed (.ok (.applied authorization value))) ∈
      (history environment calls).2) :
    ∃ state, authorization = authorize state grant request := by
  obtain ⟨before, after, -, answered⟩ := Runs.recorded_at step _ calls _ applied
  obtain ⟨result, reached, left, stepped, exits⟩ :=
    step_exit (Runs.run step (.empty, environment) before).1 grant request apply
  refine ⟨(Runs.run step (.empty, environment) before).1.1, ?_⟩
  rw [stepped] at answered
  simp only [Answer.executed.injEq] at answered
  subst answered
  cases exits with
  | applied => rfl

/-- Whether the answer to a retry is the right one: a duplicate when it selects the same
and, for a mint, asks for the same quantity, and a conflict when a mint asks for another. -/
def RetryRecognised (request retry : MutationRequest) (authorization : MutationAuthorization)
    (answer : Answer τ) : Prop :=
  (SameSelections request.request retry.request →
    (request.isMint = true → request.requestedQuantity = retry.requestedQuantity) →
      answer = .executed (.ok (.duplicate authorization))) ∧
  (request.isMint = true → request.requestedQuantity ≠ retry.requestedQuantity →
    answer = .executed (.ok (.intentConflict request.intentId)))

/-- In every run whose applied calls kept the processed intents, a later call that shares
intent, grant and mutation with an applied one is answered rightly exactly when both of
these hold: if it selects the same and asks for the same quantity, its contexts are stored
alike, and if it is a mint of another quantity, they are not.

Proof: the applied intent is still processed, so the later call is answered by the comparison
with the stored authorization. This comparison is that of the two requests, of which only the
stored contexts are left. -/
theorem retry_recognised_iff (environment : ε) (calls : List (Call ε τ))
    (keeps : AllKeepProcessed environment calls) (grant : VerifiedTrustGrant)
    (request : MutationRequest) (apply : Mutation ε τ) (authorization : MutationAuthorization)
    (value : τ)
    (applied : (.execute grant request apply, .executed (.ok (.applied authorization value))) ∈
      (history environment calls).2)
    (again : VerifiedTrustGrant) (retry : MutationRequest) (retryApply : Mutation ε τ)
    (sameGrant : grant.id = again.id) (sameIntent : retry.intentId = request.intentId)
    (sameMutation : SameMutation request.request retry.request) :
    RetryRecognised request retry authorization
        (step (history environment calls).1 (.execute again retry retryApply)).2 ↔
      (SameSelections request.request retry.request →
        (request.isMint = true → request.requestedQuantity = retry.requestedQuantity) →
          sameStoredContexts request.request retry.request = true) ∧
      (request.isMint = true → request.requestedQuantity ≠ retry.requestedQuantity →
        sameStoredContexts request.request retry.request = false) := by
  have listed : authorization ∈ appliedIn retry.intentId (history environment calls).2 :=
    List.mem_filterMap.mpr ⟨_, applied, by simp [appliedUnder, sameIntent]⟩
  have found := processed_of_applied environment calls keeps _ authorization listed
  obtain ⟨state, made⟩ := applied_authorization environment calls grant request apply
    authorization value applied
  have compared : authorization.matchesRequest again.id retry =
      sameStoredContexts request.request retry.request := by
    rw [made, matches_request_iff state grant request again.id retry sameGrant,
      Bool.eq_iff_iff, same_mutation_intent_iff]
    exact and_iff_right sameMutation
  rw [step_of_processed _ again retry retryApply authorization found, compared]
  unfold RetryRecognised
  cases sameStoredContexts request.request retry.request with
  | true => simp
  | false => simp [sameIntent]

/-- A mint by a principal with two selectors. -/
def smallMintByMember : MutationRequest :=
  Results.valueOf (smallMint [("actor", "p"), ("team", "t")] 1 "a") (by decide +kernel)

/-- The same mint with its selectors inserted in the other order. -/
def smallMintReordered : MutationRequest :=
  Results.valueOf (smallMint [("team", "t"), ("actor", "p")] 1 "a") (by decide +kernel)

/-- The same mint for two items. -/
def smallMintOfTwo : MutationRequest :=
  Results.valueOf (smallMint [("actor", "p"), ("team", "t")] 2 "a") (by decide +kernel)

/-- An unchanged retry of an applied mint is recognised. Its contexts and its quantity are the
same, so the condition holds at once. -/
theorem small_mint_retry_recognised :
    ∃ authorization, RetryRecognised smallMintByMember smallMintByMember authorization
      (step (history () (smallCalls [smallMintByMember])).1
        (.execute smallGrant smallMintByMember unchanged)).2 := by
  obtain ⟨authorization, value, record⟩ :=
    small_call_record smallMintByMember (by decide +kernel)
  have applied : (.execute smallGrant smallMintByMember unchanged,
      .executed (.ok (.applied authorization value))) ∈
        (history () (smallCalls [smallMintByMember])).2 :=
    record ▸ List.mem_singleton.mpr rfl
  have keeps := all_keep_processed_of_preserving () _
    (small_calls_preserving [smallMintByMember])
  refine ⟨authorization, (retry_recognised_iff () _ keeps smallGrant smallMintByMember unchanged
    authorization value applied smallGrant smallMintByMember unchanged rfl rfl
    ⟨rfl, rfl, rfl, rfl, rfl⟩).mpr ⟨?_, ?_⟩⟩
  · intro _ _
    decide +kernel
  · intro _ different
    exact absurd rfl different

/-- A retry that inserts the same selectors in another order is reported as a conflict, and a
retry that asks for another quantity as a duplicate. The stored contexts are compared entry by
entry and in order, and the quantity is not among what is compared. -/
theorem retries_misjudged :
    (smallMintReordered.intentId = smallMintByMember.intentId ∧
      SameMutation smallMintByMember.request smallMintReordered.request ∧
      SameSelections smallMintByMember.request smallMintReordered.request ∧
      smallMintByMember.requestedQuantity = smallMintReordered.requestedQuantity ∧
      ((history () (smallCalls [smallMintByMember, smallMintReordered])).2.map fun pair =>
        pair.2.kind) = [some .applied, some .intentConflict]) ∧
    smallMintOfTwo.intentId = smallMintByMember.intentId ∧
      SameMutation smallMintByMember.request smallMintOfTwo.request ∧
      smallMintByMember.requestedQuantity ≠ smallMintOfTwo.requestedQuantity ∧
      ((history () (smallCalls [smallMintByMember, smallMintOfTwo])).2.map fun pair =>
        pair.2.kind) = [some .applied, some .duplicate] := by
  refine ⟨⟨?_, ?_, ?_, ?_, ?_⟩, ?_, ?_, ?_, ?_⟩ <;> decide +kernel

end TrustGrant
