import TrustGrant.Execute.Executor

/-!
# The exits of one call

One call leaves the executor in one of six ways. Each is stated once with every guard
that was passed on the way to it and with the state and the environment it leaves, so that
later proofs inspect exits and not the program. A committed mutation is described by
the exact amounts it adds to every counter and every version.
-/

namespace TrustGrant

open Rust Library

namespace InMemoryExecutionState

/-- The total counter of a key, as a number. -/
def totalCount (state : InMemoryExecutionState) (key : MintTotalKey) : Nat :=
  ((state.totalMints.lookup key).getD 0).toNat

/-- The counter of a principal, as a number. -/
def principalCount (state : InMemoryExecutionState) (key : MintPrincipalKey) : Nat :=
  ((state.mintsForPrincipal.lookup key).getD 0).toNat

end InMemoryExecutionState

namespace InMemoryAtomicInventoryExecutor

/-- What a request adds to a total counter when it is applied. It is nothing for other keys and
for requests that do not mint. -/
def mintedTotal (grant : VerifiedTrustGrant) (request : MutationRequest) (key : MintTotalKey) :
    Nat :=
  if request.isMint = true ∧ (mintKeys grant request).1 = key then
    request.requestedQuantity.toNat
  else 0

/-- What a request adds to the counter of a principal when it is applied. It is nothing for other
principals. -/
def mintedForPrincipal (grant : VerifiedTrustGrant) (request : MutationRequest)
    (key : MintPrincipalKey) : Nat :=
  if request.isMint = true ∧ (mintKeys grant request).2 = key then
    request.requestedQuantity.toNat
  else 0

/-- Whether a request advances the version of a resource when it is applied. -/
def AdvancesVersion (request : MutationRequest) (key : ResourceKey) : Prop :=
  request.isMint = false ∧ existingKey request = .ok (some key)

/-- The quantity read back from the evaluated mint is the one the caller asked for. What does not
mint has no mint context and counts as one. -/
theorem evaluated_quantity (state : InMemoryExecutionState) (grant : VerifiedTrustGrant)
    (request : MutationRequest) :
    ((evaluationRequest state grant request).mintContext.map
      MintContext.requestedQuantity).getD 1 = request.requestedQuantity := by
  unfold evaluationRequest
  split
  · rfl
  · rfl

/-- The evaluated request differs from the caller's in its mint context only. The counters in it
come from the executor and never from the caller. -/
theorem evaluation_request_fields (state : InMemoryExecutionState) (grant : VerifiedTrustGrant)
    (request : MutationRequest) :
    ∃ mintContext, evaluationRequest state grant request =
      { request.request with mintContext := mintContext } := by
  unfold evaluationRequest
  split
  · exact ⟨some (runtimeMintContext state grant request), rfl⟩
  · exact ⟨request.request.mintContext, rfl⟩

/-- A committed transaction, described by what it adds to the one the mutation left. Counters are
compared by their numbers, so that later sums are sums of naturals. -/
structure Committed (grant : VerifiedTrustGrant) (request : MutationRequest)
    (authorization : MutationAuthorization) (left after : InMemoryExecutionState) : Prop where
  processed : after.processed = left.processed.insert request.intentId authorization
  auditLog : after.auditLog = left.auditLog
  totals : ∀ key, after.totalCount key = left.totalCount key + mintedTotal grant request key
  principals : ∀ key,
    after.principalCount key = left.principalCount key + mintedForPrincipal grant request key
  totalPresent : ∀ key, (after.totalMints.lookup key).isSome = true ↔
    (left.totalMints.lookup key).isSome = true ∨ 0 < mintedTotal grant request key
  principalPresent : ∀ key, (after.mintsForPrincipal.lookup key).isSome = true ↔
    (left.mintsForPrincipal.lookup key).isSome = true ∨ 0 < mintedForPrincipal grant request key
  versions : ∀ key, ¬ AdvancesVersion request key →
    after.resourceVersions.lookup key = left.resourceVersions.lookup key
  advanced : ∀ key, AdvancesVersion request key → ∃ before version,
    left.resourceVersions.lookup key = some before ∧
      after.resourceVersions.lookup key = some version ∧ version.toNat = before.toNat + 1
  untouched : request.isMint = false →
    after.totalMints = left.totalMints ∧ after.mintsForPrincipal = left.mintsForPrincipal

/-- A successful advance is the exact sum. -/
theorem advance_ok_iff (value delta sum : UInt64) :
    advance value delta = .ok sum ↔ sum.toNat = value.toNat + delta.toNat := by
  unfold advance
  rw [Results.ok_or_ok_iff, U64.checked_add_some_iff]

/-- The value behind one advanced key of a counter map. An absent counter counts as zero, before
and after. -/
theorem lookup_advanced {κ : Type} [DecidableEq κ] (map : HashMap κ UInt64) (key asked : κ)
    (sum delta : UInt64) (advanced : sum.toNat = ((map.lookup key).getD 0).toNat + delta.toNat) :
    (((map.insert key sum).lookup asked).getD 0).toNat =
      ((map.lookup asked).getD 0).toNat + if key = asked then delta.toNat else 0 := by
  rw [HashMap.lookup_insert_eq]
  by_cases same : asked = key
  · subst same
    simpa using advanced
  · rw [if_neg same, if_neg (Ne.symm same), Nat.add_zero]

/-- The key that was advanced is present and the others are as before. Presence is stated with
the amount that was added, as the counters are compared with sums. -/
theorem lookup_present {κ : Type} [DecidableEq κ] (map : HashMap κ UInt64) (key asked : κ)
    (sum delta : UInt64) (positive : delta ≠ 0) :
    ((map.insert key sum).lookup asked).isSome = true ↔
      (map.lookup asked).isSome = true ∨ 0 < if key = asked then delta.toNat else 0 := by
  have amount : 0 < delta.toNat := by
    rw [Nat.pos_iff_ne_zero]
    intro zero
    exact positive (UInt64.toNat_inj.mp zero)
  rw [HashMap.lookup_insert_eq]
  by_cases same : asked = key
  · subst same
    simp [amount]
  · rw [if_neg same, if_neg (Ne.symm same)]
    simp

/-- A committed mint adds its quantity to both counters. The quantity is positive, so both keys
are present afterwards; versions are not touched. -/
theorem committed_of_mint (grant : VerifiedTrustGrant) (request : MutationRequest)
    (authorization : MutationAuthorization) (left advanced : InMemoryExecutionState)
    (mint : request.isMint = true)
    (succeeded : advanceMints left (mintKeys grant request) request.requestedQuantity =
      .ok advanced) :
    Committed grant request authorization left
      { advanced with processed := advanced.processed.insert request.intentId authorization } := by
  obtain ⟨total, totalAdvanced, remaining⟩ := (Results.bind_ok_iff _ _ _).mp succeeded
  obtain ⟨perPrincipal, principalAdvanced, returned⟩ := (Results.bind_ok_iff _ _ _).mp remaining
  obtain rfl := (Results.pure_ok_iff _ _).mp returned
  rw [advance_ok_iff] at totalAdvanced principalAdvanced
  have positive := request.requested_quantity_positive
  have noVersion : ∀ key, ¬ AdvancesVersion request key := by
    rintro key ⟨notMint, -⟩
    rw [mint] at notMint
    cases notMint
  refine {
    processed := rfl
    auditLog := rfl
    totals := ?_
    principals := ?_
    totalPresent := ?_
    principalPresent := ?_
    versions := fun key _ => rfl
    advanced := fun key advances => absurd advances (noVersion key)
    untouched := ?_ }
  · intro key
    simpa [InMemoryExecutionState.totalCount, mintedTotal, mint] using
      lookup_advanced left.totalMints _ key total _ totalAdvanced
  · intro key
    simpa [InMemoryExecutionState.principalCount, mintedForPrincipal, mint] using
      lookup_advanced left.mintsForPrincipal _ key perPrincipal _ principalAdvanced
  · intro key
    simpa only [mintedTotal, mint, true_and] using
      lookup_present left.totalMints (mintKeys grant request).1 key total _ positive
  · intro key
    simpa only [mintedForPrincipal, mint, true_and] using
      lookup_present left.mintsForPrincipal (mintKeys grant request).2 key perPrincipal _ positive
  · intro notMint
    rw [mint] at notMint
    cases notMint

/-- A committed change of an existing resource advances its version by one. The addition is
checked, so there is no wrap, and no counter is touched. -/
theorem committed_of_version (grant : VerifiedTrustGrant) (request : MutationRequest)
    (authorization : MutationAuthorization) (left advanced : InMemoryExecutionState)
    (key : ResourceKey) (notMint : request.isMint = false)
    (keyed : existingKey request = .ok (some key))
    (succeeded : advanceVersion left key = .ok advanced) :
    Committed grant request authorization left
      { advanced with processed := advanced.processed.insert request.intentId authorization } := by
  obtain ⟨before, found, remaining⟩ := (Results.bind_ok_iff _ _ _).mp succeeded
  obtain ⟨version, stepped, returned⟩ := (Results.bind_ok_iff _ _ _).mp remaining
  obtain rfl := (Results.pure_ok_iff _ _).mp returned
  rw [advance_ok_iff] at stepped
  rw [Results.ok_or_ok_iff] at found
  have nothingTotal : ∀ asked, mintedTotal grant request asked = 0 := by
    simp [mintedTotal, notMint]
  have nothingPrincipal : ∀ asked, mintedForPrincipal grant request asked = 0 := by
    simp [mintedForPrincipal, notMint]
  refine {
    processed := rfl
    auditLog := rfl
    totals := ?_
    principals := ?_
    totalPresent := ?_
    principalPresent := ?_
    versions := ?_
    advanced := ?_
    untouched := fun _ => ⟨rfl, rfl⟩ }
  · intro asked
    rw [nothingTotal]
    rfl
  · intro asked
    rw [nothingPrincipal]
    rfl
  · intro asked
    simp [nothingTotal]
  · intro asked
    simp [nothingPrincipal]
  · intro asked other
    refine (HashMap.lookup_insert_eq _ _ _ _).trans (if_neg ?_)
    rintro rfl
    exact other ⟨notMint, keyed⟩
  · rintro asked ⟨-, keyedToo⟩
    rw [keyed] at keyedToo
    obtain rfl := Option.some.inj (Except.ok.inj keyedToo)
    exact ⟨before, version, found, by rw [HashMap.lookup_insert_eq, if_pos rfl], stepped⟩

/-- What a committed transaction adds. The two cases are a mint and a change of an existing
resource; whatever the closure left, the commit adds to it. -/
theorem committed (grant : VerifiedTrustGrant) (request : MutationRequest)
    (key : Option ResourceKey) (authorization : MutationAuthorization)
    (left after : InMemoryExecutionState) (keyed : existingKey request = .ok key)
    (succeeded : commit left grant request key request.requestedQuantity authorization =
      .ok after) :
    Committed grant request authorization left after := by
  obtain ⟨advanced, advancing, returned⟩ := (Results.bind_ok_iff _ _ _).mp succeeded
  obtain rfl := (Results.pure_ok_iff _ _).mp returned
  unfold advanceCounters at advancing
  cases mint : request.isMint with
  | true =>
    rw [if_pos mint] at advancing
    exact committed_of_mint grant request authorization left advanced mint advancing
  | false =>
    obtain ⟨resource, resourceType, version, acted, typed, -⟩ := request.existing_of_not_mint mint
    have named : existingKey request =
        .ok (some ⟨resource.originAuthority, resourceType, resource.resourceId⟩) := by
      simp only [existingKey, acted, Option.mapM_some, ResourceKey.tryFrom, typed]
      rfl
    obtain rfl := Except.ok.inj (keyed.symm.trans named)
    rw [if_neg (by rw [mint]; decide)] at advancing
    exact committed_of_version grant request authorization left advanced _ mint keyed advancing

variable {ε τ : Type*}

/-- The ways out of one call, each with the guards passed before it. The indices are the result,
the state and the environment, so a case split on an exit replaces all three. -/
inductive Exit (state : InMemoryExecutionState) (grant : VerifiedTrustGrant)
    (request : MutationRequest) (apply : Mutation ε τ) (environment : ε) :
    Except InMemoryExecutionError (AtomicExecutionResult τ) → InMemoryExecutionState → ε → Prop
  | duplicate (previous : MutationAuthorization)
      (found : state.processed.lookup request.intentId = some previous)
      (same : previous.matchesRequest grant.id request = true) :
      Exit state grant request apply environment (.ok (.duplicate previous)) state environment
  | conflict (previous : MutationAuthorization)
      (found : state.processed.lookup request.intentId = some previous)
      (different : previous.matchesRequest grant.id request = false) :
      Exit state grant request apply environment (.ok (.intentConflict request.intentId)) state
        environment
  | denied (fresh : state.processed.lookup request.intentId = none)
      (refused : (authorize state grant request).outcome.decision.isAllowed = false) :
      Exit state grant request apply environment
        (.ok (.denied (authorize state grant request)))
        (state.recordAudit (authorize state grant request)) environment
  | rejected (problem : InMemoryExecutionError)
      (fresh : state.processed.lookup request.intentId = none)
      (allowed : (authorize state grant request).outcome.decision.isAllowed = true) :
      Exit state grant request apply environment (.error problem) state environment
  | stale (currentVersion : UInt64)
      (fresh : state.processed.lookup request.intentId = none)
      (allowed : (authorize state grant request).outcome.decision.isAllowed = true) :
      Exit state grant request apply environment
        (.ok (.stale (authorize state grant request) currentVersion))
        (state.recordAudit (authorize state grant request)) environment
  | rolledBack (problem : InMemoryExecutionError)
      (answered : Except InMemoryExecutionError τ)
      (transaction : InMemoryExecutionTransaction) (left : ε)
      (fresh : state.processed.lookup request.intentId = none)
      (allowed : (authorize state grant request).outcome.decision.isAllowed = true)
      (ran : apply ⟨state.recordAudit (authorize state grant request)⟩
        (authorize state grant request) environment = (answered, transaction, left)) :
      Exit state grant request apply environment (.error problem) state left
  | applied (value : τ) (transaction : InMemoryExecutionTransaction) (left : ε)
      (after : InMemoryExecutionState)
      (fresh : state.processed.lookup request.intentId = none)
      (allowed : (authorize state grant request).outcome.decision.isAllowed = true)
      (ran : apply ⟨state.recordAudit (authorize state grant request)⟩
        (authorize state grant request) environment = (.ok value, transaction, left))
      (commits : Committed grant request (authorize state grant request) transaction.state after) :
      Exit state grant request apply environment
        (.ok (.applied (authorize state grant request) value)) after left

/-- A call that runs its mutation is rolled back or applied. It is rolled back when the closure
fails and when the commit does. -/
theorem exit_of_mutation (state : InMemoryExecutionState) (grant : VerifiedTrustGrant)
    (request : MutationRequest) (key : Option ResourceKey) (apply : Mutation ε τ)
    (environment : ε) (fresh : state.processed.lookup request.intentId = none)
    (allowed : (authorize state grant request).outcome.decision.isAllowed = true)
    (keyed : existingKey request = .ok key) :
    Exit state grant request apply environment
      (applyMutation state grant request key apply environment).1
      (applyMutation state grant request key apply environment).2.1
      (applyMutation state grant request key apply environment).2.2 := by
  simp only [applyMutation, evaluated_quantity]
  rcases ran : apply ⟨state.recordAudit (authorize state grant request)⟩
    (authorize state grant request) environment with ⟨answered, transaction, left⟩
  cases answered with
  | error problem => exact .rolledBack problem _ transaction left fresh allowed ran
  | ok value =>
    simp only
    cases committing : commit transaction.state grant request key request.requestedQuantity
        (authorize state grant request) with
    | error problem => exact .rolledBack problem _ transaction left fresh allowed ran
    | ok after =>
      exact .applied value transaction left after fresh allowed ran
        (committed grant request key _ transaction.state after keyed committing)

/-- Every call leaves through one of the exits. The executor is followed branch by branch here
and nowhere else: what later modules need to know of a call, they read from its exit. -/
theorem exit (state : InMemoryExecutionState) (grant : VerifiedTrustGrant)
    (request : MutationRequest) (apply : Mutation ε τ) (environment : ε) :
    Exit state grant request apply environment
      (authorizeAndExecute state grant request apply environment).1
      (authorizeAndExecute state grant request apply environment).2.1
      (authorizeAndExecute state grant request apply environment).2.2 := by
  unfold authorizeAndExecute
  cases found : state.processed.lookup request.intentId with
  | some previous =>
    cases same : previous.matchesRequest grant.id request with
    | true => simpa [same] using Exit.duplicate previous found same
    | false => simpa [same] using Exit.conflict previous found same
  | none =>
    simp only
    cases decided : (authorize state grant request).outcome.decision.isAllowed with
    | false => simpa using Exit.denied found decided
    | true =>
      rw [if_neg (by decide)]
      cases keyed : existingKey request with
      | error problem => exact .rejected problem found decided
      | ok key =>
        simp only
        cases checked : staleVersion state request key with
        | error problem => exact .rejected problem found decided
        | ok seen =>
          cases seen with
          | some currentVersion => exact .stale currentVersion found decided
          | none =>
            exact exit_of_mutation state grant request key apply environment found decided keyed

end InMemoryAtomicInventoryExecutor

end TrustGrant
