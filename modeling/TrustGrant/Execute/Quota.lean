import TrustGrant.Execute.Calls
import TrustGrant.Evaluate.Decision
import Mathlib.Algebra.GroupWithZero.Nat

/-!
# Mint quotas over whole runs

When mutations preserve their transaction, the counters of the executor are the exact
sums of the quantities of the applied mints in its record. The evaluator compares a
limit with a saturating sum and the executor advances with a checked one, so an applied
mint was compared with its exact sum, and the sums stay within the limits of the grant.

The invariant of the runs is an equation: every counter is the sum that the record comes to.
The limits follow from it at each applied mint, and a later mint only adds to a sum that was
compared when it was made.
-/

namespace TrustGrant

open Rust Library Library.OrderedChecks InMemoryAtomicInventoryExecutor

variable {ε τ : Type*}

/-- The quantities of the applied mints of a record that count under a total key. -/
def mintedUnder (key : MintTotalKey) (record : List (Call ε τ × Answer τ)) : Nat :=
  ((record.filterMap appliedMint).map fun mint => mintedTotal mint.1 mint.2 key).sum

/-- The quantities of the applied mints of a record that count under a principal key. -/
def mintedByPrincipal (key : MintPrincipalKey) (record : List (Call ε τ × Answer τ)) : Nat :=
  ((record.filterMap appliedMint).map fun mint => mintedForPrincipal mint.1 mint.2 key).sum

/-- The applied mints of a record stay within the limits of a grant. For each granted type both
sums are compared, the one of each principal with the limit per user. -/
def WithinLimits (grant : VerifiedTrustGrant) (record : List (Call ε τ × Answer τ)) : Prop :=
  ∀ name resourceType, grant.document.resourceScope.get name = some resourceType →
    (∀ maxTotal ∈ resourceType.constraints.minting.maxTotal,
      mintedUnder ⟨grant.id, name⟩ record ≤ maxTotal.toNat) ∧
    ∀ maxPerUser ∈ resourceType.constraints.minting.maxPerUser, ∀ principal,
      mintedByPrincipal ⟨⟨grant.id, name⟩, principal⟩ record ≤ maxPerUser.toNat

/-- A longer record counts the mints of both parts. -/
theorem minted_under_append (key : MintTotalKey) (earlier later : List (Call ε τ × Answer τ)) :
    mintedUnder key (earlier ++ later) = mintedUnder key earlier + mintedUnder key later := by
  simp [mintedUnder]

/-- A longer record counts the mints of both parts for every principal. -/
theorem minted_by_principal_append (key : MintPrincipalKey)
    (earlier later : List (Call ε τ × Answer τ)) :
    mintedByPrincipal key (earlier ++ later) =
      mintedByPrincipal key earlier + mintedByPrincipal key later := by
  simp [mintedByPrincipal]

/-- An answer that is no applied mint counts nowhere. -/
theorem nothing_minted (pair : Call ε τ × Answer τ) (other : appliedMint pair = none) :
    (∀ key, mintedUnder key [pair] = 0) ∧ ∀ key, mintedByPrincipal key [pair] = 0 := by
  simp [mintedUnder, mintedByPrincipal, other]

/-- An applied call counts what its request adds. For a request that does not mint this is
nothing. -/
theorem minted_applied (grant : VerifiedTrustGrant) (request : MutationRequest)
    (apply : Mutation ε τ) (authorization : MutationAuthorization) (value : τ) :
    (∀ key, mintedUnder key
        [(.execute grant request apply, .executed (.ok (.applied authorization value)))] =
          mintedTotal grant request key) ∧
      ∀ key, mintedByPrincipal key
        [(.execute grant request apply, .executed (.ok (.applied authorization value)))] =
          mintedForPrincipal grant request key := by
  cases mint : request.isMint with
  | true => simp [mintedUnder, mintedByPrincipal, appliedMint, mint]
  | false =>
    simp [mintedUnder, mintedByPrincipal, appliedMint, mint, mintedTotal, mintedForPrincipal]

/-- What one step does to the counters. The amounts are those that the record accounts for, and a
step that is no applied mint leaves both maps as they are. -/
structure StepCounts (machine : InMemoryExecutionState × ε) (call : Call ε τ) : Prop where
  totals : ∀ key, (step machine call).1.1.totalCount key =
    machine.1.totalCount key + mintedUnder key [(call, (step machine call).2)]
  principals : ∀ key, (step machine call).1.1.principalCount key =
    machine.1.principalCount key + mintedByPrincipal key [(call, (step machine call).2)]
  untouched : appliedMint (call, (step machine call).2) = none →
    (step machine call).1.1.totalMints = machine.1.totalMints ∧
      (step machine call).1.1.mintsForPrincipal = machine.1.mintsForPrincipal

/-- A step that is no applied mint and leaves both maps as they were. It adds nothing to the
record and nothing to the counters. -/
theorem step_counts_of_untouched (machine : InMemoryExecutionState × ε) (call : Call ε τ)
    (other : appliedMint (call, (step machine call).2) = none)
    (sameTotals : (step machine call).1.1.totalMints = machine.1.totalMints)
    (samePrincipals : (step machine call).1.1.mintsForPrincipal = machine.1.mintsForPrincipal) :
    StepCounts machine call where
  totals key := by
    rw [(nothing_minted _ other).1, InMemoryExecutionState.totalCount, sameTotals]
    rfl
  principals key := by
    rw [(nothing_minted _ other).2, InMemoryExecutionState.principalCount, samePrincipals]
    rfl
  untouched _ := ⟨sameTotals, samePrincipals⟩

/-- Every step of a preserving call adds exactly its own applied mint. An applied mint adds to
what its closure left, which is what the closure was handed; every other exit leaves the maps
alone. -/
theorem step_counts (machine : InMemoryExecutionState × ε) (call : Call ε τ)
    (preserving : call.Preserving) : StepCounts machine call := by
  cases call with
  | register resource version =>
    obtain ⟨versions, result, stepped⟩ :=
      step_register (τ := τ) machine resource version
    apply step_counts_of_untouched
    · rw [stepped]
      rfl
    · rw [stepped]
    · rw [stepped]
  | execute grant request apply =>
    obtain ⟨result, after, left, stepped, exits⟩ := step_exit machine grant request apply
    have unchanged : appliedMint (.execute grant request apply, .executed result) = none →
        after.totalMints = machine.1.totalMints →
        after.mintsForPrincipal = machine.1.mintsForPrincipal →
        StepCounts machine (.execute grant request apply) := by
      intro other sameTotals samePrincipals
      apply step_counts_of_untouched <;> rw [stepped] <;> assumption
    cases exits with
    | duplicate previous found same => exact unchanged rfl rfl rfl
    | conflict previous found different => exact unchanged rfl rfl rfl
    | denied fresh refused => exact unchanged rfl rfl rfl
    | rejected problem fresh allowed => exact unchanged rfl rfl rfl
    | stale currentVersion fresh allowed => exact unchanged rfl rfl rfl
    | rolledBack problem answered transaction left fresh allowed ran => exact unchanged rfl rfl rfl
    | applied value transaction left after fresh allowed ran commits =>
      have handed : transaction =
          ⟨machine.1.recordAudit (authorize machine.1 grant request)⟩ := by
        have kept := preserving ⟨machine.1.recordAudit (authorize machine.1 grant request)⟩
          (authorize machine.1 grant request) machine.2
        rw [ran] at kept
        exact kept
      rw [handed] at commits
      constructor
      · intro key
        rw [stepped, (minted_applied _ _ _ _ _).1]
        exact commits.totals key
      · intro key
        rw [stepped, (minted_applied _ _ _ _ _).2]
        exact commits.principals key
      · intro other
        rw [stepped] at other ⊢
        have notMint : request.isMint = false := by
          cases mint : request.isMint with
          | false => rfl
          | true => simp [appliedMint, mint] at other
        exact commits.untouched notMint

/-- An allowed mint satisfied its requirements on the counters of the state. The executor
evaluates the request with these counters in place of the caller's. -/
theorem requirements_of_allowed_mint (state : InMemoryExecutionState)
    (grant : VerifiedTrustGrant) (request : MutationRequest) (mint : request.isMint = true)
    (allowed : (authorize state grant request).outcome.decision.isAllowed = true) :
    Hold (requirements grant (request.request.withMintContext
      (runtimeMintContext state grant request))) := by
  have evaluated : evaluationRequest state grant request =
      request.request.withMintContext (runtimeMintContext state grant request) := if_pos mint
  rw [← evaluated]
  exact (allowed_iff_requirements grant (evaluationRequest state grant request)).mp allowed

/-- An allowed mint was compared with both limits of its granted type. The engine is handed the
stored counters, and an absent counter is zero. -/
theorem allowed_mint_within_limits (state : InMemoryExecutionState)
    (grant : VerifiedTrustGrant) (request : MutationRequest) (mint : request.isMint = true)
    (allowed : (authorize state grant request).outcome.decision.isAllowed = true)
    (resourceType : ValidatedResourceType)
    (found : grant.document.resourceScope.get request.request.resource.resourceType =
      some resourceType) :
    (∀ maxTotal ∈ resourceType.constraints.minting.maxTotal,
      countedAfter ((state.totalMints.lookup (mintKeys grant request).1).getD 0)
        request.requestedQuantity ≤ maxTotal.toNat) ∧
    ∀ maxPerUser ∈ resourceType.constraints.minting.maxPerUser,
      countedAfter ((state.mintsForPrincipal.lookup (mintKeys grant request).2).getD 0)
        request.requestedQuantity ≤ maxPerUser.toNat := by
  have required := requirements_of_allowed_mint state grant request mint allowed
  have asksMint : (request.request.withMintContext
      (runtimeMintContext state grant request)).operation.isMint = true := mint
  have typed : granted grant (request.request.withMintContext
      (runtimeMintContext state grant request)) = some resourceType := found
  simp only [requirements, mintChecks, hold_append, hold_cons] at required
  obtain ⟨-, -, withinTotal, -, withinPerUser, -⟩ := required
  exact ⟨fun maxTotal limited => withinTotal resourceType typed asksMint _ rfl maxTotal limited,
    fun maxPerUser limited => withinPerUser resourceType typed asksMint _ rfl maxPerUser limited⟩

/-- A counter that was advanced exactly was compared with its exact sum. -/
theorem exact_within (counter quantity after : UInt64) (limit : Nat)
    (advanced : after.toNat = counter.toNat + quantity.toNat)
    (within : countedAfter counter quantity ≤ limit) :
    counter.toNat + quantity.toNat ≤ limit := by
  have bounded : after.toNat < UInt64.size := after.toNat_lt
  unfold countedAfter at within
  omega

/-- An applied mint is an allowed mint of its call. The record of the run is reduced to its
applied mints by a function, and this says what an element of the result was. -/
theorem applied_mint_allowed (machine : InMemoryExecutionState × ε) (call : Call ε τ)
    (grant : VerifiedTrustGrant) (request : MutationRequest)
    (applied : appliedMint (call, (step machine call).2) = some (grant, request)) :
    ∃ apply, call = .execute grant request apply ∧ request.isMint = true ∧
      (authorize machine.1 grant request).outcome.decision.isAllowed = true ∧
      (∀ key, mintedUnder key [(call, (step machine call).2)] = mintedTotal grant request key) ∧
      ∀ key, mintedByPrincipal key [(call, (step machine call).2)] =
        mintedForPrincipal grant request key := by
  have counted : (∀ key, mintedUnder key [(call, (step machine call).2)] =
      mintedTotal grant request key) ∧ ∀ key,
        mintedByPrincipal key [(call, (step machine call).2)] =
          mintedForPrincipal grant request key := by
    simp [mintedUnder, mintedByPrincipal, applied]
  cases call with
  | register resource version => cases applied
  | execute called asked apply =>
    obtain ⟨result, after, left, stepped, exits⟩ := step_exit machine called asked apply
    rw [stepped] at applied
    cases exits with
    | applied value transaction environment after fresh allowed ran commits =>
      cases mint : asked.isMint with
      | false => simp [appliedMint, mint] at applied
      | true =>
        simp only [appliedMint, mint, if_true, Option.some.injEq, Prod.mk.injEq] at applied
        obtain ⟨rfl, rfl⟩ := applied
        exact ⟨apply, rfl, mint, allowed, counted⟩
    | _ => cases applied

/-- With an applied mint both exact sums are within the limits of its granted type. The engine
compares saturated sums; the commit checks that the sum does not overflow, so the saturated one
is exact. -/
theorem applied_mint_within_limits (machine : InMemoryExecutionState × ε) (call : Call ε τ)
    (preserving : call.Preserving) (grant : VerifiedTrustGrant) (request : MutationRequest)
    (applied : appliedMint (call, (step machine call).2) = some (grant, request))
    (resourceType : ValidatedResourceType)
    (found : grant.document.resourceScope.get request.request.resource.resourceType =
      some resourceType) :
    (∀ maxTotal ∈ resourceType.constraints.minting.maxTotal,
      machine.1.totalCount (mintKeys grant request).1 + request.requestedQuantity.toNat ≤
        maxTotal.toNat) ∧
    ∀ maxPerUser ∈ resourceType.constraints.minting.maxPerUser,
      machine.1.principalCount (mintKeys grant request).2 + request.requestedQuantity.toNat ≤
        maxPerUser.toNat := by
  obtain ⟨apply, -, mint, allowed, countedTotal, countedPrincipal⟩ :=
    applied_mint_allowed machine call grant request applied
  obtain ⟨withinTotal, withinPerUser⟩ :=
    allowed_mint_within_limits machine.1 grant request mint allowed resourceType found
  have counts := step_counts machine call preserving
  have total := counts.totals (mintKeys grant request).1
  have perPrincipal := counts.principals (mintKeys grant request).2
  rw [countedTotal, mintedTotal, if_pos ⟨mint, rfl⟩] at total
  rw [countedPrincipal, mintedForPrincipal, if_pos ⟨mint, rfl⟩] at perPrincipal
  constructor
  · intro maxTotal limited
    exact exact_within _ _ _ _ total (withinTotal maxTotal limited)
  · intro maxPerUser limited
    exact exact_within _ _ _ _ perPrincipal (withinPerUser maxPerUser limited)

/-- A preserving call keeps the applied mints within the limits of every grant whose
document it shares. -/
theorem step_within_limits (grant : VerifiedTrustGrant)
    (record : List (Call ε τ × Answer τ)) (machine : InMemoryExecutionState × ε)
    (call : Call ε τ) (preserving : call.Preserving)
    (sameDocument : ∀ other request apply, call = .execute other request apply →
      other.id = grant.id → other.document = grant.document)
    (totals : ∀ key, machine.1.totalCount key = mintedUnder key record)
    (principals : ∀ key, machine.1.principalCount key = mintedByPrincipal key record)
    (within : WithinLimits grant record) :
    WithinLimits grant (record ++ [(call, (step machine call).2)]) := by
  intro name resourceType found
  obtain ⟨withinTotal, withinPerUser⟩ := within name resourceType found
  simp only [minted_under_append, minted_by_principal_append]
  cases applied : appliedMint (call, (step machine call).2) with
  | none =>
    simp only [nothing_minted _ applied, Nat.add_zero]
    exact ⟨withinTotal, withinPerUser⟩
  | some mint =>
    obtain ⟨other, request⟩ := mint
    obtain ⟨apply, called, -, -, countedTotal, countedPrincipal⟩ :=
      applied_mint_allowed machine call other request applied
    simp only [countedTotal, countedPrincipal]
    have limits : other.id = grant.id → request.request.resource.resourceType = name →
        _ := fun sameGrant sameType =>
      applied_mint_within_limits machine call preserving other request applied resourceType
        (by rw [sameDocument other request apply called sameGrant, sameType, found])
    constructor
    · intro maxTotal limited
      unfold mintedTotal
      split
      · rename_i counts
        have key : (mintKeys other request).1 = ⟨grant.id, name⟩ := counts.2
        have exactSum := (limits (congrArg MintTotalKey.grantId key)
          (congrArg MintTotalKey.resourceType key)).1 maxTotal limited
        rw [key, totals] at exactSum
        exact exactSum
      · exact withinTotal maxTotal limited
    · intro maxPerUser limited principal
      unfold mintedForPrincipal
      split
      · rename_i counts
        have key : (mintKeys other request).2 = ⟨⟨grant.id, name⟩, principal⟩ := counts.2
        have totalKey := congrArg MintPrincipalKey.totalKey key
        have exactSum := (limits (congrArg MintTotalKey.grantId totalKey)
          (congrArg MintTotalKey.resourceType totalKey)).2 maxPerUser limited
        rw [key, principals] at exactSum
        exact exactSum
      · exact withinPerUser maxPerUser limited principal

/-- A preserving call keeps the counters the exact sums of the record. It is the step lemma of
the run result below. -/
theorem step_counts_kept (record : List (Call ε τ × Answer τ))
    (machine : InMemoryExecutionState × ε) (call : Call ε τ) (preserving : call.Preserving)
    (totals : ∀ key, machine.1.totalCount key = mintedUnder key record)
    (principals : ∀ key, machine.1.principalCount key = mintedByPrincipal key record) :
    (∀ key, (step machine call).1.1.totalCount key =
      mintedUnder key (record ++ [(call, (step machine call).2)])) ∧
    ∀ key, (step machine call).1.1.principalCount key =
      mintedByPrincipal key (record ++ [(call, (step machine call).2)]) := by
  have counts := step_counts machine call preserving
  constructor
  · intro key
    rw [counts.totals, minted_under_append, totals]
  · intro key
    rw [counts.principals, minted_by_principal_append, principals]

/-- In every run of preserving calls the counters are the exact sums of the record. The invariant
holds of the empty executor and its empty record, and each step keeps it. -/
theorem history_counts (environment : ε) (calls : List (Call ε τ))
    (preserving : ∀ call ∈ calls, call.Preserving) :
    (∀ key, (history environment calls).1.1.totalCount key =
      mintedUnder key (history environment calls).2) ∧
    ∀ key, (history environment calls).1.1.principalCount key =
      mintedByPrincipal key (history environment calls).2 := by
  refine Runs.run_invariant step (.empty, environment) Call.Preserving
    (fun record machine => (∀ key, machine.1.totalCount key = mintedUnder key record) ∧
      ∀ key, machine.1.principalCount key = mintedByPrincipal key record) ?_ ?_ calls preserving
  · exact ⟨fun key => rfl, fun key => rfl⟩
  · rintro record machine call preserves ⟨totals, principals⟩
    exact step_counts_kept record machine call preserves totals principals

/-- In every run of preserving calls that share the document of a grant, the applied mints
stay within its limits. -/
theorem history_within_limits (grant : VerifiedTrustGrant) (environment : ε)
    (calls : List (Call ε τ)) (preserving : ∀ call ∈ calls, call.Preserving)
    (sameDocument : ∀ other request apply, .execute other request apply ∈ calls →
      other.id = grant.id → other.document = grant.document) :
    WithinLimits grant (history environment calls).2 := by
  have invariant := Runs.run_invariant step (.empty, environment)
    (fun call => call.Preserving ∧ ∀ other request apply, call = .execute other request apply →
      other.id = grant.id → other.document = grant.document)
    (fun record machine => (∀ key, machine.1.totalCount key = mintedUnder key record) ∧
      (∀ key, machine.1.principalCount key = mintedByPrincipal key record) ∧
      WithinLimits grant record) ?_ ?_ calls ?_
  · exact invariant.2.2
  · exact ⟨fun key => rfl, fun key => rfl, fun name resourceType found =>
      ⟨fun maxTotal limited => Nat.zero_le _, fun maxPerUser limited principal => Nat.zero_le _⟩⟩
  · rintro record machine call ⟨preserves, shares⟩ ⟨totals, principals, within⟩
    obtain ⟨totalsKept, principalsKept⟩ :=
      step_counts_kept record machine call preserves totals principals
    exact ⟨totalsKept, principalsKept, step_within_limits grant record machine call preserves
      shares totals principals within⟩
  · intro call member
    refine ⟨preserving call member, ?_⟩
    rintro other request apply rfl
    exact sameDocument other request apply member

/-- Quota safety: in every run of preserving calls with one document for each grant
identifier, both counters are the exact sums of the applied mints, nothing but an applied
mint changes them, and the sums stay within the limits of every grant of the run.

Proof: one step adds exactly its own applied mint to both counters, so they are the sums of the
record. An allowed mint was compared with both limits on the sums that it leads to, and other
calls leave the sums as they are. -/
theorem mint_quota_safety (environment : ε) (calls : List (Call ε τ))
    (preserving : ∀ call ∈ calls, call.Preserving) (consistent : Consistent calls) :
    (∀ key, (history environment calls).1.1.totalCount key =
      mintedUnder key (history environment calls).2) ∧
    (∀ key, (history environment calls).1.1.principalCount key =
      mintedByPrincipal key (history environment calls).2) ∧
    (∀ call : Call ε τ, call.Preserving →
      appliedMint (call, (step (history environment calls).1 call).2) = none →
        (step (history environment calls).1 call).1.1.totalMints =
          (history environment calls).1.1.totalMints ∧
        (step (history environment calls).1 call).1.1.mintsForPrincipal =
          (history environment calls).1.1.mintsForPrincipal) ∧
    ∀ grant request apply, .execute grant request apply ∈ calls →
      WithinLimits grant (history environment calls).2 := by
  obtain ⟨totals, principals⟩ := history_counts environment calls preserving
  refine ⟨totals, principals, ?_, ?_⟩
  · intro call preserves
    exact (step_counts _ call preserves).untouched
  · intro grant request apply member
    apply history_within_limits grant environment calls preserving
    intro other otherRequest otherApply otherMember
    exact consistent other otherRequest otherApply grant request apply otherMember member

/-- After two applied mints and a denied one the counter reads two, and the limits hold. The
denied one adds to no counter. -/
theorem small_mint_quota :
    (history () smallRun).1.1.totalCount (mintKeys smallGrant smallMintByActor).1 = 2 ∧
    WithinLimits smallGrant (history () smallRun).2 := by
  obtain ⟨totals, -, -, within⟩ := mint_quota_safety () smallRun (small_calls_preserving _)
    (small_calls_consistent _)
  constructor
  · exact (totals _).trans (by decide +kernel)
  · exact within smallGrant smallMintByActor unchanged List.mem_cons_self

end TrustGrant
