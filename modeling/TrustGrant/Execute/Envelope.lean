import TrustGrant.Execute.Atomicity
import TrustGrant.Execute.Versions

/-!
# Actors and envelopes of applied mutations

A mutation is applied when its intent is new, its evaluation allows it, the version it
expects is stored, its closure succeeds and the counters have room. Neither its actor nor
its envelope is among these guards, so an applied mutation carries a live envelope exactly
when its request did.

The guards of a call are stated as one structure, and a call is applied exactly when all of
them hold. Liveness of what a run records is then a question about the requests of the
calls, which an induction over the run answers.
-/

namespace TrustGrant

open Rust Library InMemoryAtomicInventoryExecutor

variable {ε τ : Type*}

/-- The request names its actor and an envelope that has not expired when it is evaluated. The
time is the one in the request. -/
def MutationRequest.Live (request : MutationRequest) : Prop :=
  request.actor.isSome = true ∧
    ∃ expiry, request.envelopeExpiresAt = some expiry ∧ request.request.evaluatedAt ≤ expiry

/-- The same of an authorization. The authorization carries the request that was evaluated, and
with it the time. -/
def MutationAuthorization.Live (authorization : MutationAuthorization) : Prop :=
  authorization.actor.isSome = true ∧ ∃ expiry, authorization.envelopeExpiresAt = some expiry ∧
    authorization.request.evaluatedAt ≤ expiry

/-- The counters that a request advances do not overflow, and its resource is there. It is a
condition on a state, which the commit asks of the transaction that the closure left. -/
structure HasRoom (grant : VerifiedTrustGrant) (request : MutationRequest)
    (state : InMemoryExecutionState) : Prop where
  total : request.isMint = true →
    state.totalCount (mintKeys grant request).1 + request.requestedQuantity.toNat < UInt64.size
  principal : request.isMint = true →
    state.principalCount (mintKeys grant request).2 + request.requestedQuantity.toNat <
      UInt64.size
  version : ∀ key, AdvancesVersion request key → ∃ current,
    state.resourceVersions.lookup key = some current ∧ current.toNat + 1 < UInt64.size

/-- Every guard of the executor lets the request through. The fields are the guards in the order
in which the executor asks them. -/
structure Unhindered (state : InMemoryExecutionState) (grant : VerifiedTrustGrant)
    (request : MutationRequest) (apply : Mutation ε τ) (environment : ε) : Prop where
  fresh : state.processed.lookup request.intentId = none
  allowed : (authorize state grant request).outcome.decision.isAllowed = true
  current : ∀ key, AdvancesVersion request key → ∃ version,
    state.resourceVersions.lookup key = some version ∧ request.expectedVersion = some version
  succeeds : ∃ value transaction left,
    apply ⟨state.recordAudit (authorize state grant request)⟩
        (authorize state grant request) environment = (.ok value, transaction, left) ∧
      HasRoom grant request transaction.state

/-- A mint acts on no existing resource. Its binding is a template, which has no key. -/
theorem existing_key_of_mint (request : MutationRequest) (mint : request.isMint = true) :
    existingKey request = .ok none := by
  obtain ⟨intentId, -, remaining⟩ := (Results.bind_ok_iff _ _ _).mp request.bound
  obtain ⟨⟨⟩, checked, -⟩ := (Results.bind_ok_iff _ _ _).mp remaining
  unfold MutationRequest.isMint RequestedOperation.isMint at mint
  unfold checkBinding at checked
  unfold existingKey MutationRequest.existingResource
  cases binding : request.request.resourceBinding with
  | mint template => rfl
  | existing resource =>
    rw [binding] at checked
    split at checked <;> simp_all

/-- A request that does not mint advances the version of one key. -/
theorem existing_key_of_not_mint (request : MutationRequest) (notMint : request.isMint = false) :
    ∃ key, existingKey request = .ok (some key) := by
  obtain ⟨resource, resourceType, version, acted, typed, -⟩ := request.existing_of_not_mint notMint
  refine ⟨⟨resource.originAuthority, resourceType, resource.resourceId⟩, ?_⟩
  simp only [existingKey, acted, Option.mapM_some, ResourceKey.tryFrom, typed]
  rfl

/-- A value can be advanced when the sum fits. The addition of the source is the checked one. -/
theorem advance_succeeds_iff (value delta : UInt64) :
    (∃ sum, advance value delta = .ok sum) ↔ value.toNat + delta.toNat < UInt64.size := by
  simp only [advance_ok_iff]
  constructor
  · rintro ⟨sum, exact⟩
    rw [← exact]
    exact sum.toNat_lt
  · intro fits
    exact ⟨UInt64.ofNatLT _ fits, UInt64.toNat_ofNatLT ..⟩

/-- A transaction is committed exactly when it has room for what the request adds. A mint adds to
two counters and a change of a resource to its version; each addition is checked, and there is
nothing else that can fail. -/
theorem commit_succeeds_iff (state : InMemoryExecutionState) (grant : VerifiedTrustGrant)
    (request : MutationRequest) (key : Option ResourceKey) (authorization : MutationAuthorization)
    (keyed : existingKey request = .ok key) :
    (∃ after, commit state grant request key request.requestedQuantity authorization =
      .ok after) ↔ HasRoom grant request state := by
  have recorded : (∃ after, commit state grant request key request.requestedQuantity
      authorization = .ok after) ↔
      ∃ after, advanceCounters state grant request key request.requestedQuantity = .ok after := by
    simp only [commit, Results.bind_ok_iff, Results.pure_ok_iff]
    exact ⟨fun ⟨_, advanced, succeeded, _⟩ => ⟨advanced, succeeded⟩,
      fun ⟨advanced, succeeded⟩ => ⟨_, advanced, succeeded, rfl⟩⟩
  rw [recorded]
  unfold advanceCounters
  cases mint : request.isMint with
  | true =>
    have noVersion : ∀ asked, ¬ AdvancesVersion request asked := by
      rintro asked ⟨notMint, -⟩
      rw [mint] at notMint
      cases notMint
    have rooms : HasRoom grant request state ↔
        (∃ total, advance ((state.totalMints.lookup (mintKeys grant request).1).getD 0)
          request.requestedQuantity = .ok total) ∧
        ∃ perPrincipal, advance
          ((state.mintsForPrincipal.lookup (mintKeys grant request).2).getD 0)
            request.requestedQuantity = .ok perPrincipal := by
      rw [advance_succeeds_iff, advance_succeeds_iff]
      exact ⟨fun room => ⟨room.total mint, room.principal mint⟩, fun ⟨total, principal⟩ =>
        ⟨fun _ => total, fun _ => principal, fun asked advances =>
          absurd advances (noVersion asked)⟩⟩
    rw [if_pos rfl, rooms]
    simp only [advanceMints, Results.bind_ok_iff, Results.pure_ok_iff]
    exact ⟨fun ⟨_, total, totalAdvanced, perPrincipal, principalAdvanced, _⟩ =>
        ⟨⟨total, totalAdvanced⟩, perPrincipal, principalAdvanced⟩,
      fun ⟨⟨total, totalAdvanced⟩, perPrincipal, principalAdvanced⟩ =>
        ⟨_, total, totalAdvanced, perPrincipal, principalAdvanced, rfl⟩⟩
  | false =>
    obtain ⟨found, named⟩ := existing_key_of_not_mint request mint
    obtain rfl : key = some found := Except.ok.inj (keyed.symm.trans named)
    have rooms : HasRoom grant request state ↔ ∃ current,
        state.resourceVersions.lookup found = some current ∧
          ∃ version, advance current 1 = .ok version := by
      simp only [advance_succeeds_iff]
      constructor
      · intro room
        exact room.version found ⟨mint, named⟩
      · intro version
        refine ⟨fun minted => ?_, fun minted => ?_, ?_⟩
        · rw [mint] at minted
          cases minted
        · rw [mint] at minted
          cases minted
        · rintro asked ⟨-, keyedToo⟩
          obtain rfl : found = asked :=
            Option.some.inj (Except.ok.inj (named.symm.trans keyedToo))
          exact version
    rw [if_neg (by decide), rooms]
    simp only [advanceVersion, Results.bind_ok_iff, Results.ok_or_ok_iff, Results.pure_ok_iff]
    exact ⟨fun ⟨_, current, stored, version, stepped, _⟩ => ⟨current, stored, version, stepped⟩,
      fun ⟨current, stored, version, stepped⟩ => ⟨_, current, stored, version, stepped, rfl⟩⟩

/-- The version check of the executor passes exactly on the expected version. A mint advances no
version, so for it both sides hold. -/
theorem version_check_passes_iff (state : InMemoryExecutionState) (request : MutationRequest)
    (key : Option ResourceKey) (keyed : existingKey request = .ok key) :
    staleVersion state request key = .ok none ↔
      ∀ asked, AdvancesVersion request asked → ∃ version,
        state.resourceVersions.lookup asked = some version ∧
          request.expectedVersion = some version := by
  cases mint : request.isMint with
  | true =>
    obtain rfl : key = none :=
      Except.ok.inj (keyed.symm.trans (existing_key_of_mint request mint))
    refine iff_of_true rfl ?_
    rintro asked ⟨notMint, -⟩
    rw [mint] at notMint
    cases notMint
  | false =>
    obtain ⟨found, named⟩ := existing_key_of_not_mint request mint
    obtain rfl : key = some found := Except.ok.inj (keyed.symm.trans named)
    rw [stale_version_none_iff]
    constructor
    · rintro current asked ⟨-, keyedToo⟩
      obtain rfl : found = asked := Option.some.inj (Except.ok.inj (named.symm.trans keyedToo))
      exact current
    · intro current
      exact current found ⟨mint, named⟩

/-- The commit step applies a mutation exactly when its closure succeeds and leaves room. The
closure may leave any transaction, so the room is that of what it left. -/
theorem apply_mutation_applied_iff (state : InMemoryExecutionState)
    (grant : VerifiedTrustGrant) (request : MutationRequest) (key : Option ResourceKey)
    (apply : Mutation ε τ) (environment : ε) (keyed : existingKey request = .ok key) :
    (∃ value, (applyMutation state grant request key apply environment).1 =
      .ok (.applied (authorize state grant request) value)) ↔
      ∃ value transaction left,
        apply ⟨state.recordAudit (authorize state grant request)⟩
            (authorize state grant request) environment = (.ok value, transaction, left) ∧
          HasRoom grant request transaction.state := by
  simp only [applyMutation, evaluated_quantity]
  rcases ran : apply ⟨state.recordAudit (authorize state grant request)⟩
    (authorize state grant request) environment with ⟨answered, transaction, left⟩
  cases answered with
  | error problem => simp
  | ok value =>
    simp only [Prod.mk.injEq, Except.ok.injEq]
    have commits := commit_succeeds_iff transaction.state grant request key
      (authorize state grant request) keyed
    constructor
    · rintro ⟨answeredValue, applied⟩
      cases committing : commit transaction.state grant request key request.requestedQuantity
          (authorize state grant request) with
      | error problem => simp [committing] at applied
      | ok after =>
        exact ⟨value, transaction, left, ⟨rfl, rfl, rfl⟩, commits.mp ⟨after, committing⟩⟩
    · rintro ⟨_, _, _, ⟨rfl, rfl, rfl⟩, room⟩
      obtain ⟨after, committing⟩ := commits.mpr room
      exact ⟨value, by rw [committing]⟩

/-- A call is applied exactly when every guard lets it through. The guards are asked in the order
of the source, and the last of them are the closure and the commit. -/
theorem applied_iff (state : InMemoryExecutionState) (grant : VerifiedTrustGrant)
    (request : MutationRequest) (apply : Mutation ε τ) (environment : ε) :
    (∃ value, (authorizeAndExecute state grant request apply environment).1 =
      .ok (.applied (authorize state grant request) value)) ↔
      Unhindered state grant request apply environment := by
  obtain ⟨key, keyed⟩ : ∃ key, existingKey request = .ok key := by
    cases mint : request.isMint with
    | true => exact ⟨none, existing_key_of_mint request mint⟩
    | false =>
      obtain ⟨key, named⟩ := existing_key_of_not_mint request mint
      exact ⟨some key, named⟩
  have passes := version_check_passes_iff state request key keyed
  have succeeds := apply_mutation_applied_iff state grant request key apply environment keyed
  unfold authorizeAndExecute
  constructor
  · rintro ⟨value, applied⟩
    split at applied
    · split at applied <;> simp at applied
    · rename_i fresh
      simp only [keyed] at applied
      split at applied
      · simp at applied
      · rename_i allowed
        split at applied
        · simp at applied
        · simp at applied
        · rename_i current
          exact ⟨fresh, by simpa using allowed, passes.mp current, succeeds.mp ⟨value, applied⟩⟩
  · intro unhindered
    obtain ⟨value, applied⟩ := succeeds.mpr unhindered.succeeds
    refine ⟨value, ?_⟩
    simp only [unhindered.fresh, unhindered.allowed, keyed, passes.mpr unhindered.current,
      applied, Bool.true_eq_false, if_false]

/-- An applied result carries the authorization that was made for its call. The other exits have
other results. -/
theorem applied_authorize (state : InMemoryExecutionState) (grant : VerifiedTrustGrant)
    (request : MutationRequest) (apply : Mutation ε τ) (environment : ε)
    (authorization : MutationAuthorization) (value : τ)
    (applied : (authorizeAndExecute state grant request apply environment).1 =
      .ok (.applied authorization value)) :
    authorization = authorize state grant request := by
  have exits := exit state grant request apply environment
  rw [applied] at exits
  cases exits
  rfl

/-- An authorization is live exactly when its request is. The expiry and the time of the
evaluation are carried over as they are. -/
theorem authorize_live_iff (state : InMemoryExecutionState) (grant : VerifiedTrustGrant)
    (request : MutationRequest) :
    (authorize state grant request).Live ↔ request.Live := by
  obtain ⟨mintContext, evaluated⟩ := evaluation_request_fields state grant request
  have asked : (authorize state grant request).request.evaluatedAt =
      request.request.evaluatedAt := by
    change (evaluate grant (evaluationRequest state grant request)).request.evaluatedAt = _
    rw [evaluated]
    rfl
  unfold MutationAuthorization.Live MutationRequest.Live
  rw [asked]
  rfl

/-- Whatever an execution records for the audit log is the authorization that was made for it. A
duplicate records nothing, as its authorization was recorded before. -/
theorem recorded_authorize (machine : InMemoryExecutionState × ε) (grant : VerifiedTrustGrant)
    (request : MutationRequest) (apply : Mutation ε τ) (authorization : MutationAuthorization)
    (records : recorded (step machine (.execute grant request apply)).2 = some authorization) :
    authorization = authorize machine.1 grant request := by
  obtain ⟨result, after, left, stepped, exits⟩ := step_exit machine grant request apply
  rw [stepped] at records
  cases exits with
  | denied fresh refused => exact (Option.some.inj records).symm
  | stale currentVersion fresh allowed => exact (Option.some.inj records).symm
  | applied value transaction left after fresh allowed ran commits =>
    exact (Option.some.inj records).symm
  | duplicate previous found same => cases records
  | conflict previous found different => cases records
  | rejected problem fresh allowed => cases records
  | rolledBack problem answered transaction left fresh allowed ran => cases records

/-- The request of an execution is live. A registration has none. -/
def Call.Live : Call ε τ → Prop
  | .register _ _ => True
  | .execute _ request _ => request.Live

/-- One step of a live call records nothing but live authorizations. It is the step lemma of the
run result on records. -/
theorem recorded_live (machine : InMemoryExecutionState × ε) (call : Call ε τ) (live : call.Live)
    (authorization : MutationAuthorization)
    (records : recorded (step machine call).2 = some authorization) : authorization.Live := by
  cases call with
  | register resource version =>
    obtain ⟨versions, result, stepped⟩ := step_register (τ := τ) machine resource version
    rw [stepped] at records
    cases records
  | execute grant request apply =>
    obtain rfl := recorded_authorize machine grant request apply authorization records
    exact (authorize_live_iff machine.1 grant request).mpr live

/-- No guard of the executor looks at the actor or at the envelope, so an applied result carries
an actor and an unexpired envelope exactly when its request did. In a run whose requests all do,
every applied result does, and with it the audit record that it leaves; when the closures leave
the transaction unchanged, so does the whole audit log.

Proof: the guards of a call are listed, and neither actor nor expiry is among them; the
authorization carries both as the request had them. The run part is by induction, with one step
recording live authorizations only. -/
theorem applied_live_iff (environment : ε) (calls : List (Call ε τ)) :
    (∀ grant request apply authorization value,
      (.execute grant request apply, .executed (.ok (.applied authorization value))) ∈
          (history environment calls).2 →
        (authorization.Live ↔ request.Live)) ∧
    ((∀ call ∈ calls, call.Live) →
      (∀ pair ∈ (history environment calls).2, ∀ authorization value,
        pair.2 = .executed (.ok (.applied authorization value)) →
          recorded pair.2 = some authorization ∧ authorization.Live) ∧
      ((∀ call ∈ calls, call.Preserving) →
        ∀ authorization ∈ (history environment calls).1.1.auditLog, authorization.Live)) := by
  constructor
  · intro grant request apply authorization value member
    obtain ⟨before, after, -, answered⟩ := Runs.recorded_at step _ calls _ member
    have records : recorded (step (history environment before).1
        (.execute grant request apply)).2 = some authorization := congrArg recorded answered.symm
    obtain rfl := recorded_authorize _ grant request apply authorization records
    exact authorize_live_iff _ grant request
  · intro live
    have recordsLive : ∀ pair ∈ (history environment calls).2, ∀ authorization,
        recorded pair.2 = some authorization → authorization.Live := by
      intro pair member authorization records
      obtain ⟨before, after, split, answered⟩ := Runs.recorded_at step _ calls _ member
      rw [answered] at records
      exact recorded_live _ pair.1 (live pair.1 (by simp [split])) authorization records
    constructor
    · rintro ⟨call, answer⟩ member authorization value rfl
      exact ⟨rfl, recordsLive _ member authorization rfl⟩
    · intro preserving authorization logged
      rw [history_audit_log environment calls preserving] at logged
      obtain ⟨pair, member, records⟩ := List.mem_filterMap.mp logged
      exact recordsLive pair member authorization records

/-- The small mint with an actor and with an envelope that expires at a time. -/
def smallMintUntil (expiresAt : DateTime) : MutationRequest :=
  (smallMintByActor.withActor
    (Results.valueOf (AuthorityId.new Text.asciiCaseMapping "did:p")
      (by decide +kernel))).withEnvelopeExpiry expiresAt

/-- One second before the small mint is evaluated. -/
def smallSecondBefore : DateTime := ⟨1775563199, 0, by decide, by decide, by decide⟩

/-- A mint whose envelope expired before it was evaluated is applied, with the expired envelope
in its authorization. The executor carries the expiry into the record and compares it with
nothing. -/
theorem expired_mint_applied :
    ∃ authorization value, (history () (smallCalls [smallMintUntil smallSecondBefore])).2 =
        [(.execute smallGrant (smallMintUntil smallSecondBefore) unchanged,
          .executed (.ok (.applied authorization value)))] ∧
      authorization.actor.isSome = true ∧
      authorization.envelopeExpiresAt = some smallSecondBefore ∧
      smallSecondBefore < authorization.request.evaluatedAt := by
  obtain ⟨authorization, value, record⟩ :=
    small_call_record (smallMintUntil smallSecondBefore) (by decide +kernel)
  have records : recorded (step (.empty, ())
      (.execute smallGrant (smallMintUntil smallSecondBefore) unchanged)).2 =
        some authorization := by
    have answered := (List.cons.inj record).1
    exact congrArg (fun pair => recorded pair.2) answered
  refine ⟨authorization, value, record, ?_⟩
  rw [recorded_authorize _ _ _ _ _ records]
  exact ⟨rfl, rfl, by decide +kernel⟩

/-- With an envelope that expires when it is evaluated, the same mint leaves a live record. The
limit is inclusive, and the run has no other call. -/
theorem small_mint_live :
    (history () (smallCalls [smallMintUntil smallInstant])).1.1.auditLog.length = 1 ∧
      ∀ authorization ∈ (history () (smallCalls [smallMintUntil smallInstant])).1.1.auditLog,
        authorization.Live := by
  refine ⟨by decide +kernel, ((applied_live_iff () _).2 ?_).2 (small_calls_preserving _)⟩
  intro call member
  obtain rfl := List.mem_singleton.mp member
  exact ⟨rfl, smallInstant, rfl, le_refl _⟩

end TrustGrant
