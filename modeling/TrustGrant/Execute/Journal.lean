import TrustGrant.Execute.Atomicity
import TrustGrant.Execute.Envelope
import TrustGrant.Execute.Quota

/-!
# The journal behind the state of the executor

The maps of the executor are views of what happened: a registration, an applied
authorization or one that was recorded without effect. A list of such entries is the
journal of a run. It holds neither grants nor requests nor closures, and replaying it
evaluates nothing; yet it restores the state of the run exactly, so an executor that is
lost can be rebuilt from its journal and goes on as if nothing had happened.

The audit log alone is less than the journal: an authorization that was stale is recorded
as one that was applied is. For mints the log is enough, since no mint is stale, and the
counters can be reconciled with it.

One step lemma says that a call leaves what its entry leaves when it is replayed, and replay
of a run is the replay of its entries. Continuing alike is then an equation of states.
-/

namespace TrustGrant

open Rust Library InMemoryAtomicInventoryExecutor

variable {ε τ : Type*}

namespace MutationAuthorization

/-- The keys of the counters that an applied mint under this authorization advances. -/
def mintKeys (authorization : MutationAuthorization) : MintTotalKey × MintPrincipalKey :=
  let totalKey : MintTotalKey :=
    ⟨authorization.outcome.decision.trustgrantId, authorization.request.resource.resourceType⟩
  (totalKey, ⟨totalKey, authorization.request.audiencePrincipalContext.stableKey⟩)

/-- The number of resources that the authorized mint creates. -/
def quantity (authorization : MutationAuthorization) : UInt64 :=
  (authorization.request.mintContext.map MintContext.requestedQuantity).getD 1

/-- The key of the existing resource that the authorized mutation changes. It is recomputed from
the recorded request. -/
def changedKey (authorization : MutationAuthorization) : Option ResourceKey :=
  match authorization.request.resourceBinding with
  | .existing resource => (ResourceKey.tryFrom resource).toOption
  | .mint _ => none

end MutationAuthorization

/-- One entry of the journal. There is one for each call that changed the state, and it holds
what the change depended on. -/
inductive Entry where
  | registered (key : ResourceKey) (version : UInt64)
  | applied (authorization : MutationAuthorization)
  | unapplied (authorization : MutationAuthorization)

namespace InMemoryExecutionState

/-- Add a quantity to both counters of a mint. -/
def countMint (state : InMemoryExecutionState) (keys : MintTotalKey × MintPrincipalKey)
    (quantity : UInt64) : InMemoryExecutionState :=
  { state with
    totalMints := state.totalMints.insert keys.1
      ((state.totalMints.lookup keys.1).getD 0 + quantity)
    mintsForPrincipal := state.mintsForPrincipal.insert keys.2
      ((state.mintsForPrincipal.lookup keys.2).getD 0 + quantity) }

/-- Add one to the version of a resource. -/
def countChange (state : InMemoryExecutionState) (key : ResourceKey) : InMemoryExecutionState :=
  { state with
    resourceVersions := state.resourceVersions.insert key
      ((state.resourceVersions.lookup key).getD 0 + 1) }

/-- The counters and versions after an applied authorization. They are computed from the
authorization alone, without the grant and the request. -/
def countApplied (state : InMemoryExecutionState) (authorization : MutationAuthorization) :
    InMemoryExecutionState :=
  if authorization.request.operation.isMint then
    state.countMint authorization.mintKeys authorization.quantity
  else
    match authorization.changedKey with
    | some key => state.countChange key
    | none => state

/-- Replay one entry. No check of the executor is made again. -/
def replayEntry (state : InMemoryExecutionState) : Entry → InMemoryExecutionState
  | .registered key version =>
    { state with resourceVersions := state.resourceVersions.insert key version }
  | .unapplied authorization => state.recordAudit authorization
  | .applied authorization =>
    let state := (state.recordAudit authorization).countApplied authorization
    { state with processed := state.processed.insert authorization.intentId authorization }

/-- Replay a journal on a state. -/
def replay (state : InMemoryExecutionState) (journal : List Entry) : InMemoryExecutionState :=
  journal.foldl replayEntry state

end InMemoryExecutionState

/-- What the journal keeps of an answered call. A call that changed nothing has no entry. -/
def entryOf : Call ε τ × Answer τ → Option Entry
  | (.register resource version, .registered (.ok ())) =>
    (ResourceKey.tryFrom resource).toOption.map fun key => .registered key version
  | (.execute _ _ _, .executed (.ok (.applied authorization _))) => some (.applied authorization)
  | (.execute _ _ _, .executed (.ok (.denied authorization))) => some (.unapplied authorization)
  | (.execute _ _ _, .executed (.ok (.stale authorization _))) =>
    some (.unapplied authorization)
  | _ => none

/-- The journal of a record. -/
def journalOf (record : List (Call ε τ × Answer τ)) : List Entry := record.filterMap entryOf

/-- The authorization of a call names the counters of its grant and request, their quantity
and the resource acted upon. -/
theorem authorize_names (state : InMemoryExecutionState) (grant : VerifiedTrustGrant)
    (request : MutationRequest) (authorization : MutationAuthorization)
    (made : authorization = authorize state grant request) :
    authorization.request.operation.isMint = request.isMint ∧
      authorization.mintKeys = mintKeys grant request ∧
      (request.isMint = true → authorization.quantity = request.requestedQuantity) ∧
      ∀ key, existingKey request = .ok key → authorization.changedKey = key := by
  subst made
  have decided : (authorize state grant request).outcome.decision.trustgrantId =
      grant.lineage.trustgrantId := decision_grant_id grant _
  obtain ⟨mintContext, evaluated⟩ := evaluation_request_fields state grant request
  have asked : (authorize state grant request).request =
      { request.request with mintContext := mintContext } := evaluated
  refine ⟨?_, ?_, ?_, ?_⟩
  · rw [asked]
    rfl
  · simp only [MutationAuthorization.mintKeys, decided, asked]
    rfl
  · intro mint
    have read := evaluated_quantity state grant request
    exact read
  · intro key keyed
    simp only [MutationAuthorization.changedKey, asked]
    unfold existingKey MutationRequest.existingResource at keyed
    cases binding : request.request.resourceBinding with
    | mint template =>
      rw [binding] at keyed
      exact Except.ok.inj keyed
    | existing resource =>
      rw [binding] at keyed
      simp only [Option.mapM_some] at keyed ⊢
      cases named : ResourceKey.tryFrom resource with
      | error problem =>
        rw [named] at keyed
        cases keyed
      | ok found =>
        rw [named] at keyed
        exact Except.ok.inj keyed

/-- A value that was advanced is the machine sum. -/
theorem advance_eq_add (value delta sum : UInt64) (advanced : advance value delta = .ok sum) :
    sum = value + delta := by
  rw [advance_ok_iff] at advanced
  have bounded : sum.toNat < UInt64.size := sum.toNat_lt
  rw [← UInt64.toNat_inj, UInt64.toNat_add, ← advanced]
  exact (Nat.mod_eq_of_lt bounded).symm

/-- A committed transaction is the one the mutation left with the entry replayed on it. Replay
adds without the checks of the commit, and these passed. -/
theorem commit_replays (state left after : InMemoryExecutionState) (grant : VerifiedTrustGrant)
    (request : MutationRequest) (key : Option ResourceKey)
    (keyed : existingKey request = .ok key)
    (committing : commit left grant request key request.requestedQuantity
      (authorize state grant request) = .ok after) :
    after =
      { left.countApplied (authorize state grant request) with
        processed := (left.countApplied (authorize state grant request)).processed.insert
          request.intentId (authorize state grant request) } := by
  obtain ⟨sameKind, sameKeys, sameQuantity, sameResource⟩ :=
    authorize_names state grant request _ rfl
  obtain ⟨advanced, advancing, returned⟩ := (Results.bind_ok_iff _ _ _).mp committing
  obtain rfl := (Results.pure_ok_iff _ _).mp returned
  suffices counted : advanced = left.countApplied (authorize state grant request) by rw [counted]
  unfold advanceCounters at advancing
  unfold InMemoryExecutionState.countApplied
  rw [sameKind]
  by_cases mint : request.isMint = true
  · rw [if_pos mint] at advancing ⊢
    obtain ⟨total, totalAdvanced, remaining⟩ := (Results.bind_ok_iff _ _ _).mp advancing
    obtain ⟨perPrincipal, principalAdvanced, returned⟩ :=
      (Results.bind_ok_iff _ _ _).mp remaining
    obtain rfl := (Results.pure_ok_iff _ _).mp returned
    obtain rfl := advance_eq_add _ _ _ totalAdvanced
    obtain rfl := advance_eq_add _ _ _ principalAdvanced
    rw [sameKeys, sameQuantity mint]
    rfl
  · rw [if_neg mint] at advancing ⊢
    obtain ⟨found, named⟩ := existing_key_of_not_mint request (by simpa using mint)
    obtain rfl : key = some found := Except.ok.inj (keyed.symm.trans named)
    obtain ⟨current, stored, remaining⟩ := (Results.bind_ok_iff _ _ _).mp advancing
    obtain ⟨version, stepped, returned⟩ := (Results.bind_ok_iff _ _ _).mp remaining
    obtain rfl := (Results.pure_ok_iff _ _).mp returned
    obtain rfl := advance_eq_add _ _ _ stepped
    rw [Results.ok_or_ok_iff] at stored
    rw [sameResource _ named]
    simp only [InMemoryExecutionState.countChange, stored, Option.getD_some]

/-- An applied call committed what its closure left. The other branches of the executor answer
otherwise, and each is refuted by its answer. -/
theorem commit_of_applied (state : InMemoryExecutionState) (grant : VerifiedTrustGrant)
    (request : MutationRequest) (apply : Mutation ε τ) (environment : ε)
    (authorization : MutationAuthorization) (value : τ)
    (applied : (authorizeAndExecute state grant request apply environment).1 =
      .ok (.applied authorization value)) :
    ∃ key left, existingKey request = .ok key ∧
      (apply ⟨state.recordAudit (authorize state grant request)⟩
        (authorize state grant request) environment).2.1 = left ∧
      commit left.state grant request key request.requestedQuantity
        (authorize state grant request) =
          .ok (authorizeAndExecute state grant request apply environment).2.1 := by
  unfold authorizeAndExecute at applied ⊢
  cases found : state.processed.lookup request.intentId with
  | some previous =>
    simp only [found] at applied
    split at applied <;> simp at applied
  | none =>
    simp only [found] at applied ⊢
    by_cases refused : (authorize state grant request).outcome.decision.isAllowed = false
    · simp [refused] at applied
    · rw [if_neg refused] at applied ⊢
      cases keyed : existingKey request with
      | error problem => simp [keyed] at applied
      | ok key =>
        simp only [keyed] at applied ⊢
        cases checked : staleVersion state request key with
        | error problem => simp [checked] at applied
        | ok seen =>
          cases seen with
          | some currentVersion => simp [checked] at applied
          | none =>
            refine ⟨key, _, rfl, rfl, ?_⟩
            simp only [checked, applyMutation, evaluated_quantity] at applied ⊢
            generalize apply ⟨state.recordAudit (authorize state grant request)⟩
              (authorize state grant request) environment = ran at applied ⊢
            obtain ⟨answered, transaction, left⟩ := ran
            cases answered with
            | error problem => simp at applied
            | ok answeredValue =>
              simp only at applied ⊢
              cases committing : commit transaction.state grant request key
                  request.requestedQuantity (authorize state grant request) with
              | error problem => simp [committing] at applied
              | ok after => rfl

/-- A preserving call leaves the state with its entry replayed on it. Calls that change nothing
have no entry, and those that append a record have an entry with the record. -/
theorem step_journal (machine : InMemoryExecutionState × ε) (call : Call ε τ)
    (preserving : call.Preserving) :
    (step machine call).1.1 = machine.1.replay (entryOf (call, (step machine call).2)).toList := by
  cases call with
  | register resource version =>
    simp only [step, registerResource]
    cases named : ResourceKey.tryFrom resource with
    | error problem => rfl
    | ok key =>
      simp only [entryOf, named]
      rfl
  | execute grant request apply =>
    obtain ⟨result, after, left, stepped, exits⟩ := step_exit machine grant request apply
    rw [stepped]
    cases exits with
    | duplicate previous found same => rfl
    | conflict previous found different => rfl
    | denied fresh refused => rfl
    | rejected problem fresh allowed => rfl
    | stale currentVersion fresh allowed => rfl
    | rolledBack problem answered transaction left fresh allowed ran => rfl
    | applied value transaction left after fresh allowed ran commits =>
      have ended : authorizeAndExecute machine.1 grant request apply machine.2 =
          (.ok (.applied (authorize machine.1 grant request) value), after, left) := by
        have answered := congrArg (fun outcome => outcome.2) stepped
        have moved := congrArg (fun outcome => outcome.1) stepped
        exact Prod.ext (Answer.executed.inj answered) moved
      obtain ⟨key, leftBehind, keyed, leaves, committing⟩ :=
        commit_of_applied machine.1 grant request apply machine.2 _ value (by rw [ended])
      rw [ended, ← leaves, preserving] at committing
      exact commit_replays machine.1 _ after grant request key keyed committing

/-- The journal of a longer record continues that of the shorter one. -/
theorem journal_of_append (earlier later : List (Call ε τ × Answer τ)) :
    journalOf (earlier ++ later) = journalOf earlier ++ journalOf later :=
  List.filterMap_append

/-- Recovery: in every run of preserving calls the state is the journal of the run replayed
from the empty state, and calls made on the replayed state are answered as those made on
the executor itself.

Proof: the invariant of the run is the equation between its state and the replayed journal, and
one call adds its own entry to both sides. Calls made later start from equal states. -/
theorem recovered_from_journal (environment : ε) (earlier later : List (Call ε τ))
    (preserving : ∀ call ∈ earlier, call.Preserving) :
    (history environment earlier).1.1 =
        InMemoryExecutionState.empty.replay (journalOf (history environment earlier).2) ∧
      history environment (earlier ++ later) =
        ((Runs.run step (InMemoryExecutionState.empty.replay
            (journalOf (history environment earlier).2),
              (history environment earlier).1.2) later).1,
          (history environment earlier).2 ++
            (Runs.run step (InMemoryExecutionState.empty.replay
              (journalOf (history environment earlier).2),
                (history environment earlier).1.2) later).2) := by
  have replayed : (history environment earlier).1.1 =
      InMemoryExecutionState.empty.replay (journalOf (history environment earlier).2) := by
    refine Runs.run_invariant step (.empty, environment) Call.Preserving
      (fun record machine => machine.1 = InMemoryExecutionState.empty.replay (journalOf record))
      rfl ?_ earlier preserving
    intro record machine call preserves invariant
    have single : journalOf [(call, (step machine call).2)] =
        (entryOf (call, (step machine call).2)).toList := by
      cases entry : entryOf (call, (step machine call).2) <;> simp [journalOf, entry]
    rw [step_journal machine call preserves, invariant, journal_of_append, single]
    exact (List.foldl_append ..).symm
  refine ⟨replayed, ?_⟩
  rw [← replayed]
  exact Runs.run_append step (.empty, environment) earlier later

/-- A run with a denied mint is recovered from its journal. On the state recovered from its first
two calls the third one is denied again. -/
theorem small_mint_recovered :
    (history () smallRun).1.1 =
        InMemoryExecutionState.empty.replay (journalOf (history () smallRun).2) ∧
      (step (InMemoryExecutionState.empty.replay (journalOf (history ()
          (smallCalls [smallMintByActor, smallMintByOther])).2), ())
        (.execute smallGrant smallMintBeyond unchanged)).2.kind = some .denied := by
  refine ⟨(recovered_from_journal () smallRun [] (small_calls_preserving _)).1, ?_⟩
  rw [← (recovered_from_journal () (smallCalls [smallMintByActor, smallMintByOther]) []
    (small_calls_preserving _)).1]
  decide +kernel

/-! ## Reconciliation with the audit log -/

/-- The number of resources that an audit record accounts for under a total key. A record of a
denied mint accounts for none. -/
def auditedTotal (key : MintTotalKey) (authorization : MutationAuthorization) : Nat :=
  if authorization.outcome.decision.isAllowed = true ∧
      authorization.request.operation.isMint = true ∧ authorization.mintKeys.1 = key then
    authorization.quantity.toNat
  else 0

/-- The number of resources that an audit record accounts for under a principal key. -/
def auditedForPrincipal (key : MintPrincipalKey) (authorization : MutationAuthorization) : Nat :=
  if authorization.outcome.decision.isAllowed = true ∧
      authorization.request.operation.isMint = true ∧ authorization.mintKeys.2 = key then
    authorization.quantity.toNat
  else 0

/-- No mint is stale: it acts on no existing resource. So what a stale answer accounts for is
nothing, as for a failed call. -/
theorem stale_not_mint (state : InMemoryExecutionState) (grant : VerifiedTrustGrant)
    (request : MutationRequest) (apply : Mutation ε τ) (environment : ε)
    (authorization : MutationAuthorization) (currentVersion : UInt64)
    (stale : (authorizeAndExecute state grant request apply environment).1 =
      .ok (.stale authorization currentVersion)) : request.isMint = false := by
  cases mint : request.isMint with
  | false => rfl
  | true =>
    have template := existing_key_of_mint request mint
    unfold authorizeAndExecute at stale
    cases found : state.processed.lookup request.intentId with
    | some previous =>
      simp only [found] at stale
      split at stale <;> simp at stale
    | none =>
      simp only [found, template, staleVersion, applyMutation] at stale
      split at stale
      · simp at stale
      · generalize apply ⟨state.recordAudit (authorize state grant request)⟩
          (authorize state grant request) environment = ran at stale
        obtain ⟨answered, transaction, left⟩ := ran
        cases answered with
        | error problem => simp at stale
        | ok value =>
          simp only at stale
          split at stale <;> simp at stale

/-- What an answer adds to a counter is what its audit record accounts for. A record accounts for
a mint when it is an allowed one, and an allowed mint that was recorded was applied. -/
theorem step_audited (machine : InMemoryExecutionState × ε) (call : Call ε τ) :
    (∀ key, mintedUnder key [(call, (step machine call).2)] =
        (((recorded (step machine call).2).toList).map (auditedTotal key)).sum) ∧
      ∀ key, mintedByPrincipal key [(call, (step machine call).2)] =
        (((recorded (step machine call).2).toList).map (auditedForPrincipal key)).sum := by
  cases call with
  | register resource version =>
    obtain ⟨versions, result, stepped⟩ := step_register (τ := τ) machine resource version
    rw [stepped]
    exact ⟨fun key => rfl, fun key => rfl⟩
  | execute grant request apply =>
    obtain ⟨result, after, left, stepped, exits⟩ := step_exit machine grant request apply
    have answered := congrArg (fun outcome => outcome.2) stepped
    rw [stepped]
    cases exits with
    | duplicate previous found same => exact ⟨fun key => rfl, fun key => rfl⟩
    | conflict previous found different => exact ⟨fun key => rfl, fun key => rfl⟩
    | rejected problem fresh allowed => exact ⟨fun key => rfl, fun key => rfl⟩
    | rolledBack problem answered transaction left fresh allowed ran =>
      exact ⟨fun key => rfl, fun key => rfl⟩
    | denied fresh refused =>
      have nothing := nothing_minted (.execute grant request apply,
        .executed (.ok (.denied (authorize machine.1 grant request)))) rfl
      simp [nothing.1, nothing.2, recorded, auditedTotal, auditedForPrincipal, refused]
    | stale currentVersion fresh allowed =>
      have notMint := stale_not_mint machine.1 grant request apply machine.2 _ currentVersion
        (Answer.executed.inj answered)
      obtain ⟨sameKind, -, -, -⟩ := authorize_names machine.1 grant request _ rfl
      have nothing := nothing_minted (.execute grant request apply,
        .executed (.ok (.stale (authorize machine.1 grant request) currentVersion))) rfl
      simp [nothing.1, nothing.2, recorded, auditedTotal, auditedForPrincipal, sameKind, notMint]
    | applied value transaction left after fresh allowed ran commits =>
      obtain ⟨sameKind, sameKeys, sameQuantity, -⟩ :=
        authorize_names machine.1 grant request _ rfl
      have minted := minted_applied grant request apply (authorize machine.1 grant request) value
      cases mint : request.isMint with
      | false =>
        simp [minted.1, minted.2, mintedTotal, mintedForPrincipal, recorded, auditedTotal,
          auditedForPrincipal, sameKind, mint]
      | true =>
        simp [minted.1, minted.2, mintedTotal, mintedForPrincipal, recorded, auditedTotal,
          auditedForPrincipal, sameKind, mint, allowed, sameKeys, sameQuantity mint]

/-- Reconciliation: in every run of preserving calls each counter is the number of resources
that the allowed mints of the audit log account for under its key.

Proof: one call adds the same amount to a counter and to what the log accounts for. An allowed
mint that was recorded was applied, because no mint is stale and a mint that is rolled back
leaves no record. -/
theorem counters_reconcile_with_audit_log (environment : ε) (calls : List (Call ε τ))
    (preserving : ∀ call ∈ calls, call.Preserving) :
    (∀ key, (history environment calls).1.1.totalCount key =
        ((history environment calls).1.1.auditLog.map (auditedTotal key)).sum) ∧
      ∀ key, (history environment calls).1.1.principalCount key =
        ((history environment calls).1.1.auditLog.map (auditedForPrincipal key)).sum := by
  refine Runs.run_invariant step (.empty, environment) Call.Preserving
    (fun _ machine =>
      (∀ key, machine.1.totalCount key = (machine.1.auditLog.map (auditedTotal key)).sum) ∧
        ∀ key, machine.1.principalCount key =
          (machine.1.auditLog.map (auditedForPrincipal key)).sum)
    ⟨fun key => rfl, fun key => rfl⟩ ?_ calls preserving
  rintro record machine call preserves ⟨totals, principals⟩
  have counts := step_counts machine call preserves
  obtain ⟨auditedTotals, auditedPrincipals⟩ := step_audited machine call
  rw [step_audit_log machine call preserves]
  constructor
  · intro key
    rw [counts.totals, totals, auditedTotals, List.map_append, List.sum_append]
  · intro key
    rw [counts.principals, principals, auditedPrincipals, List.map_append, List.sum_append]

/-- The audit log of two applied mints and a denied one accounts for two resources. -/
theorem small_mint_reconciled :
    ((history () smallRun).1.1.auditLog.map
      (auditedTotal (mintKeys smallGrant smallMintByActor).1)).sum = 2 := by
  obtain ⟨totals, -⟩ := counters_reconcile_with_audit_log () smallRun (small_calls_preserving _)
  exact (totals _).symm.trans (by decide +kernel)

end TrustGrant
