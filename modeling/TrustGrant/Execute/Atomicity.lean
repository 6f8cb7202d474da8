import TrustGrant.Execute.Calls

/-!
# Atomicity of the executor

A failed call changes nothing, an answered call changes what its answer says, and the
closure runs only on the way to a commit. Runs of a closure are counted by a wrapper that
adds a counter to the environment and does nothing else. The audit log of a run is the
list of the authorizations its answers carried.

A call has six exits, and the result says for each what is left of the state and whether the
closure ran. For runs the exits become a step lemma about the audit log, and an induction
over the calls.
-/

namespace TrustGrant

open Rust Library InMemoryAtomicInventoryExecutor

variable {ε τ : Type*}

/-- A closure that counts its runs. The counter is a second component of the environment. -/
def counted (apply : Mutation ε τ) : Mutation (ε × Nat) τ :=
  fun transaction authorization environment =>
    ((apply transaction authorization environment.1).1,
      (apply transaction authorization environment.1).2.1,
      (apply transaction authorization environment.1).2.2, environment.2 + 1)

/-- Counting changes neither the result nor the state nor the closure's environment. The branches
of the executor are followed one by one; the counter moves in the one branch that runs the
closure. -/
theorem counted_execution (state : InMemoryExecutionState) (grant : VerifiedTrustGrant)
    (request : MutationRequest) (apply : Mutation ε τ) (environment : ε) (runs : Nat) :
    ∃ runsAfter, authorizeAndExecute state grant request (counted apply) (environment, runs) =
      ((authorizeAndExecute state grant request apply environment).1,
        (authorizeAndExecute state grant request apply environment).2.1,
        (authorizeAndExecute state grant request apply environment).2.2, runsAfter) := by
  unfold authorizeAndExecute
  cases state.processed.lookup request.intentId with
  | some previous =>
    refine ⟨runs, ?_⟩
    simp only
    split <;> rfl
  | none =>
    simp only
    split
    · exact ⟨runs, rfl⟩
    · cases existingKey request with
      | error problem => exact ⟨runs, rfl⟩
      | ok key =>
        simp only
        cases staleVersion state request key with
        | error problem => exact ⟨runs, rfl⟩
        | ok seen =>
          cases seen with
          | some currentVersion => exact ⟨runs, rfl⟩
          | none =>
            refine ⟨runs + 1, ?_⟩
            simp only [applyMutation, counted, evaluated_quantity]
            rcases apply ⟨state.recordAudit (authorize state grant request)⟩
              (authorize state grant request) environment with ⟨answered, transaction, left⟩
            cases answered with
            | error problem => rfl
            | ok value =>
              simp only
              cases commit transaction.state grant request key request.requestedQuantity
                (authorize state grant request) with
              | error problem => rfl
              | ok committed => rfl

/-- What a call may have changed and how often its closure ran, by its result. It ran once in a
call that is applied and in no other call that is answered; a failed call may have run it. -/
inductive AtomicExit (before after : InMemoryExecutionState) (runs : Nat) :
    Except InMemoryExecutionError (AtomicExecutionResult τ) → Prop
  | failed (problem : InMemoryExecutionError) (same : after = before) :
      AtomicExit before after runs (.error problem)
  | duplicate (authorization : MutationAuthorization) (same : after = before)
      (skipped : runs = 0) : AtomicExit before after runs (.ok (.duplicate authorization))
  | conflict (intentId : IntentId) (same : after = before) (skipped : runs = 0) :
      AtomicExit before after runs (.ok (.intentConflict intentId))
  | denied (authorization : MutationAuthorization)
      (appended : after = before.recordAudit authorization) (skipped : runs = 0) :
      AtomicExit before after runs (.ok (.denied authorization))
  | stale (authorization : MutationAuthorization) (currentVersion : UInt64)
      (appended : after = before.recordAudit authorization) (skipped : runs = 0) :
      AtomicExit before after runs (.ok (.stale authorization currentVersion))
  | applied (authorization : MutationAuthorization) (value : τ) (once : runs = 1) :
      AtomicExit before after runs (.ok (.applied authorization value))

/-- Every call is atomic, whatever its closure does. The exits of a call are listed once, and
each of them says which state it leaves and whether the closure ran. -/
theorem execution_atomic (state : InMemoryExecutionState) (grant : VerifiedTrustGrant)
    (request : MutationRequest) (apply : Mutation ε τ) (environment : ε) :
    AtomicExit state
      (authorizeAndExecute state grant request (counted apply) (environment, 0)).2.1
      (authorizeAndExecute state grant request (counted apply) (environment, 0)).2.2.2
      (authorizeAndExecute state grant request (counted apply) (environment, 0)).1 := by
  have exits := exit state grant request (counted apply) (environment, 0)
  generalize (authorizeAndExecute state grant request (counted apply) (environment, 0)).1 =
    result at exits ⊢
  generalize (authorizeAndExecute state grant request (counted apply) (environment, 0)).2.1 =
    after at exits ⊢
  generalize (authorizeAndExecute state grant request (counted apply) (environment, 0)).2.2 =
    left at exits ⊢
  cases exits with
  | duplicate previous found same => exact .duplicate previous rfl rfl
  | conflict previous found different => exact .conflict _ rfl rfl
  | denied fresh refused => exact .denied _ rfl rfl
  | rejected problem fresh allowed => exact .failed problem rfl
  | stale currentVersion fresh allowed => exact .stale _ currentVersion rfl rfl
  | rolledBack problem answered transaction left fresh allowed ran => exact .failed problem rfl
  | applied value transaction left after fresh allowed ran commits =>
    refine .applied _ value ?_
    have counter := congrArg (fun outcome => outcome.2.2.2) ran
    exact counter.symm

/-- One step of a preserving call appends the authorization its answer carries. A preserving
closure leaves the log as it was handed, so the commit appends to the log of the state before the
call. -/
theorem step_audit_log (machine : InMemoryExecutionState × ε) (call : Call ε τ)
    (preserving : call.Preserving) :
    (step machine call).1.1.auditLog =
      machine.1.auditLog ++ (recorded (step machine call).2).toList := by
  cases call with
  | register resource version =>
    obtain ⟨versions, result, stepped⟩ := step_register (τ := τ) machine resource version
    rw [stepped]
    exact (List.append_nil _).symm
  | execute grant request apply =>
    obtain ⟨result, after, left, stepped, exits⟩ := step_exit machine grant request apply
    rw [stepped]
    cases exits with
    | duplicate previous found same => exact (List.append_nil _).symm
    | conflict previous found different => exact (List.append_nil _).symm
    | denied fresh refused => rfl
    | rejected problem fresh allowed => exact (List.append_nil _).symm
    | stale currentVersion fresh allowed => rfl
    | rolledBack problem answered transaction left fresh allowed ran =>
      exact (List.append_nil _).symm
    | applied value transaction left after fresh allowed ran commits =>
      have kept := preserving ⟨machine.1.recordAudit (authorize machine.1 grant request)⟩
        (authorize machine.1 grant request) machine.2
      rw [ran] at kept
      have handed : transaction.state.auditLog =
          machine.1.auditLog ++ [authorize machine.1 grant request] := by
        rw [show transaction = _ from kept]
        rfl
      exact commits.auditLog.trans handed

/-- The audit log of a run of preserving calls lists what its answers recorded. The step lemma
above is carried through the run by induction. -/
theorem history_audit_log (environment : ε) (calls : List (Call ε τ))
    (preserving : ∀ call ∈ calls, call.Preserving) :
    (history environment calls).1.1.auditLog =
      (history environment calls).2.filterMap fun pair => recorded pair.2 := by
  refine Runs.run_invariant step (.empty, environment) Call.Preserving
    (fun record machine => machine.1.auditLog = record.filterMap fun pair => recorded pair.2)
    rfl ?_ calls preserving
  intro record machine call preserves invariant
  rw [step_audit_log machine call preserves, invariant, List.filterMap_append]
  cases answer : recorded (step machine call).2 <;> simp [answer]

/-- Atomicity: a failed call leaves the state as it was, a duplicate or a conflict too and
without running the closure, a denied or stale call appends one audit record without
running it, and an applied call ran it once. The audit log of a run of preserving calls is
the list of authorizations carried by its applied, denied and stale answers.

Proof: a closure that counts its runs is answered like the closure, so the exits of a call say
how often it ran. The law of the audit log is a run lemma. -/
theorem executor_atomicity :
    (∀ (state : InMemoryExecutionState) (grant : VerifiedTrustGrant)
      (request : MutationRequest) (apply : Mutation ε τ) (environment : ε),
      (authorizeAndExecute state grant request (counted apply) (environment, 0)).1 =
          (authorizeAndExecute state grant request apply environment).1 ∧
        (authorizeAndExecute state grant request (counted apply) (environment, 0)).2.1 =
          (authorizeAndExecute state grant request apply environment).2.1 ∧
        AtomicExit state
          (authorizeAndExecute state grant request apply environment).2.1
          (authorizeAndExecute state grant request (counted apply) (environment, 0)).2.2.2
          (authorizeAndExecute state grant request apply environment).1) ∧
    ∀ (environment : ε) (calls : List (Call ε τ)), (∀ call ∈ calls, call.Preserving) →
      (history environment calls).1.1.auditLog =
        (history environment calls).2.filterMap fun pair => recorded pair.2 := by
  refine ⟨?_, history_audit_log⟩
  intro state grant request apply environment
  have atomic := execution_atomic state grant request apply environment
  obtain ⟨runs, same⟩ := counted_execution state grant request apply environment 0
  rw [same] at atomic ⊢
  exact ⟨rfl, rfl, atomic⟩

/-- Two applied mints and a denied one leave their three records, in this order. The denied one
ran no closure, and its record stays all the same. -/
theorem small_mint_audited :
    (history () smallRun).1.1.auditLog.map (fun record => record.outcome.decision.isAllowed) =
      [true, true, false] := by
  rw [executor_atomicity.2 () smallRun (small_calls_preserving _)]
  decide +kernel

end TrustGrant
