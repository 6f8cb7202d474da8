import TrustGrant.Execute.Envelope
import TrustGrant.Execute.Quota
import TrustGrant.Execute.Replay

/-!
# What is left is available

Nothing but the applied mints of a record uses up a quota, and nothing but the applied
mutations of a resource moves its version. A mint that the grant allows on a new executor is
therefore applied exactly as long as the exact sums leave room for it, whatever was denied,
repeated or rolled back in between, and a change is applied exactly when it expects the version
that the applied changes come to. A refused caller learns what stands in the way: the limit that
is reached, or the version that a retry has to expect.

The results are the other side of the quota's safety: there a mint that is applied is shown
to have had room, here a mint that has room is shown to be applied. Both read the counters
of the executor as the exact sums of the record.
-/

namespace TrustGrant

open Rust Library Library.OrderedChecks InMemoryAtomicInventoryExecutor

variable {ε τ : Type*}

/-- The closure of a call succeeds on the executor that it would be handed. It is a condition on
the closure and on the state before the call. -/
def Succeeds (machine : InMemoryExecutionState × ε) (grant : VerifiedTrustGrant)
    (request : MutationRequest) (apply : Mutation ε τ) : Prop :=
  ∃ value, (apply ⟨machine.1.recordAudit (authorize machine.1 grant request)⟩
    (authorize machine.1 grant request) machine.2).1 = .ok value

/-- The limit that a mint would exceed after these numbers of mints, the one of the type first.
A sum is cut off at the largest counter value. -/
def limitReached (grant : VerifiedTrustGrant) (request : MutationRequest)
    (total perUser : Nat) : Option EvaluationDenyReason := do
  let resourceType ← granted grant request.request
  let after (count : Nat) : Nat := min (count + request.requestedQuantity.toNat) (UInt64.size - 1)
  if ∃ maxTotal ∈ resourceType.constraints.minting.maxTotal, maxTotal.toNat < after total then
    some .mintTotalLimitReached
  else if ∃ maxPerUser ∈ resourceType.constraints.minting.maxPerUser,
      maxPerUser.toNat < after perUser then
    some .mintPerUserLimitReached
  else none

section Mints

variable {grant : VerifiedTrustGrant} {request : MutationRequest}

/-- The requirements on a mint that do not look at its counters. They are those on any
executor. -/
def otherRequirements (grant : VerifiedTrustGrant) (request : EvaluationRequest) :
    List (Check EvaluationDenyReason) :=
  selectorChecks request ++ revocationChecks grant request ++ timeChecks grant request ++
    targetChecks grant request ++ [⟨granted grant request ≠ none, .resourceTypeNotGranted⟩] ++
    capabilityChecks grant request ++ resourceChecks grant request ++
    operationChecks grant request ++ audienceChecks grant request

/-- An allowed mint satisfies the other requirements, its type is granted, and a limit per
user comes with a principal context. -/
theorem other_requirements_of_allowed (state : InMemoryExecutionState)
    (mint : request.isMint = true)
    (allowed : (authorize state grant request).outcome.decision.isAllowed = true) :
    Hold (otherRequirements grant request.request) ∧
      granted grant request.request ≠ none ∧
      ∀ resourceType ∈ granted grant request.request,
        resourceType.constraints.minting.maxPerUser ≠ none →
          ∃ kind value, value ∈ request.request.audiencePrincipalContext.valueSet kind := by
  have required := requirements_of_allowed_mint state grant request mint allowed
  obtain ⟨others, minting⟩ := (hold_append (otherRequirements grant request.request) _).mp required
  refine ⟨others, ?_, ?_⟩
  · exact others ⟨granted grant request.request ≠ none, .resourceTypeNotGranted⟩
      (by simp [otherRequirements])
  · intro resourceType found
    simp only [mintChecks, hold_cons] at minting
    obtain ⟨-, -, principal, -⟩ := minting
    exact principal resourceType found mint

/-- Past the other requirements, a mint is refused for the limit that it would exceed. The
requirements are a list whose last ones are the limits, so the verdict on the list is the verdict
on these. -/
theorem deny_reason_of_others (state : InMemoryExecutionState) (mint : request.isMint = true)
    (others : Hold (otherRequirements grant request.request))
    (resourceType : ValidatedResourceType)
    (found : granted grant request.request = some resourceType)
    (principal : resourceType.constraints.minting.maxPerUser ≠ none →
      ∃ kind value, value ∈ request.request.audiencePrincipalContext.valueSet kind) :
    (authorize state grant request).outcome.decision.denyReason =
      limitReached grant request (state.totalCount (mintKeys grant request).1)
        (state.principalCount (mintKeys grant request).2) := by
  have decided := deny_reason_verdict grant (evaluationRequest state grant request)
  rw [evaluationRequest, if_pos mint] at decided
  have reached : (authorize state grant request).outcome.decision.denyReason =
      (evaluate grant (request.request.withMintContext
        (runtimeMintContext state grant request))).decision.denyReason := by
    rw [authorize, evaluationRequest, if_pos mint]
    rfl
  rw [reached]
  refine verdict_unique _ _ _ decided
    (verdict_append_accepted (otherRequirements grant request.request) _ _
      ((accepted_iff _).mpr others) ?_)
  have typed : granted grant (request.request.withMintContext
      (runtimeMintContext state grant request)) = some resourceType := found
  simp only [mintChecks, typed, limitReached, found, Option.mem_def, Option.some.injEq,
    forall_eq', Option.bind_eq_bind, Option.bind_some]
  refine .passed _ _ _ (fun _ _ => Option.some_ne_none _) ?_
  split
  · rename_i exceeded
    obtain ⟨maxTotal, limited, exceeds⟩ := exceeded
    exact .refused _ _ fun within =>
      absurd (within mint _ rfl maxTotal limited) (not_le.mpr exceeds)
  · rename_i withinTotal
    refine .passed _ _ _ ?_ (.passed _ _ _ (fun _ => principal) ?_)
    · rintro - _ ⟨⟩ maxTotal limited
      exact not_lt.mp fun exceeds => withinTotal ⟨maxTotal, limited, exceeds⟩
    · split
      · rename_i exceeded
        obtain ⟨maxPerUser, limited, exceeds⟩ := exceeded
        exact .refused _ _ fun within =>
          absurd (within mint _ rfl maxPerUser limited) (not_le.mpr exceeds)
      · rename_i withinPerUser
        refine .passed _ _ _ ?_ .accepted
        rintro - _ ⟨⟩ maxPerUser limited
        exact not_lt.mp fun exceeds => withinPerUser ⟨maxPerUser, limited, exceeds⟩

/-- No limit is reached when every limit of the granted type has room. The sums are saturated, as
they are in the engine. -/
theorem limit_reached_none_iff (resourceType : ValidatedResourceType)
    (found : granted grant request.request = some resourceType) (total perUser : Nat) :
    limitReached grant request total perUser = none ↔
      (∀ maxTotal ∈ resourceType.constraints.minting.maxTotal,
        min (total + request.requestedQuantity.toNat) (UInt64.size - 1) ≤ maxTotal.toNat) ∧
      ∀ maxPerUser ∈ resourceType.constraints.minting.maxPerUser,
        min (perUser + request.requestedQuantity.toNat) (UInt64.size - 1) ≤ maxPerUser.toNat := by
  simp only [limitReached, found, Option.bind_eq_bind, Option.bind_some, ← not_lt]
  constructor
  · intro nothing
    split at nothing
    · cases nothing
    · rename_i withinTotal
      split at nothing
      · cases nothing
      · rename_i withinPerUser
        exact ⟨fun maxTotal limited exceeds => withinTotal ⟨maxTotal, limited, exceeds⟩,
          fun maxPerUser limited exceeds => withinPerUser ⟨maxPerUser, limited, exceeds⟩⟩
  · rintro ⟨withinTotal, withinPerUser⟩
    rw [if_neg fun ⟨maxTotal, limited, exceeds⟩ => withinTotal maxTotal limited exceeds,
      if_neg fun ⟨maxPerUser, limited, exceeds⟩ => withinPerUser maxPerUser limited exceeds]

/-- Where the counters leave room, they did so on a new executor. Saturated sums are monotone in
the counter. -/
theorem limit_not_reached_before (resourceType : ValidatedResourceType)
    (found : granted grant request.request = some resourceType) (total perUser : Nat)
    (room : limitReached grant request total perUser = none) :
    limitReached grant request 0 0 = none := by
  rw [limit_reached_none_iff resourceType found] at room ⊢
  obtain ⟨withinTotal, withinPerUser⟩ := room
  constructor
  · intro maxTotal limited
    have within := withinTotal maxTotal limited
    omega
  · intro maxPerUser limited
    have within := withinPerUser maxPerUser limited
    omega

/-- The reason that a mint which the grant allows on a new executor is denied for. Everything but
the limits holds already, so only a limit can be the reason. -/
theorem deny_reason_of_allowed_first (state : InMemoryExecutionState)
    (mint : request.isMint = true)
    (allowed : (authorize .empty grant request).outcome.decision.isAllowed = true) :
    (authorize state grant request).outcome.decision.denyReason =
      limitReached grant request (state.totalCount (mintKeys grant request).1)
        (state.principalCount (mintKeys grant request).2) := by
  obtain ⟨others, present, principal⟩ := other_requirements_of_allowed _ mint allowed
  obtain ⟨resourceType, found⟩ := Option.ne_none_iff_exists'.mp present
  exact deny_reason_of_others state mint others resourceType found (principal resourceType found)

/-- A mint is allowed when the grant allows it on a new executor and no limit is reached. The
counters are all that the engine reads of the executor, so the other requirements are those on a
new one. -/
theorem mint_allowed_iff (state : InMemoryExecutionState) (mint : request.isMint = true) :
    (authorize state grant request).outcome.decision.isAllowed = true ↔
      (authorize .empty grant request).outcome.decision.isAllowed = true ∧
        limitReached grant request (state.totalCount (mintKeys grant request).1)
          (state.principalCount (mintKeys grant request).2) = none := by
  simp only [EvaluationDecision.isAllowed, Option.isNone_iff_eq_none]
  constructor
  · intro undenied
    have allowed : (authorize state grant request).outcome.decision.isAllowed = true :=
      Option.isNone_iff_eq_none.mpr undenied
    obtain ⟨others, present, principal⟩ := other_requirements_of_allowed state mint allowed
    obtain ⟨resourceType, found⟩ := Option.ne_none_iff_exists'.mp present
    have reason (state : InMemoryExecutionState) := deny_reason_of_others state mint others
      resourceType found (principal resourceType found)
    rw [reason] at undenied
    exact ⟨(reason .empty).trans (limit_not_reached_before resourceType found _ _ undenied),
      undenied⟩
  · rintro ⟨allowedFirst, room⟩
    rw [deny_reason_of_allowed_first state mint (Option.isNone_iff_eq_none.mpr allowedFirst), room]

end Mints

/-- The mints of a principal are among all mints under its total key. Every applied mint that
counts for the one counts for the other. -/
theorem minted_by_principal_le (key : MintPrincipalKey) (record : List (Call ε τ × Answer τ)) :
    mintedByPrincipal key record ≤ mintedUnder key.totalKey record := by
  unfold mintedByPrincipal mintedUnder
  induction record.filterMap appliedMint with
  | nil => exact le_refl 0
  | cons mint mints inductionHypothesis =>
    have counted : mintedForPrincipal mint.1 mint.2 key ≤
        mintedTotal mint.1 mint.2 key.totalKey := by
      unfold mintedForPrincipal mintedTotal
      split
      · rename_i counts
        rw [if_pos ⟨counts.1, congrArg MintPrincipalKey.totalKey counts.2⟩]
      · exact Nat.zero_le _
    simp only [List.map_cons, List.sum_cons]
    omega

section Calls

variable {machine : InMemoryExecutionState × ε} {grant : VerifiedTrustGrant}
  {request : MutationRequest} {apply : Mutation ε τ}

/-- An execution is answered as applied exactly when nothing hinders it. The answer carries an
authorization, and it is the one that was made for the call. -/
theorem kind_applied_iff :
    (step machine (.execute grant request apply)).2.kind = some .applied ↔
      Unhindered machine.1 grant request apply machine.2 := by
  rw [← applied_iff]
  constructor
  · intro kind
    obtain ⟨authorization, value, answered⟩ := Answer.applied_of_kind _ kind
    have applied : (authorizeAndExecute machine.1 grant request apply machine.2).1 =
        .ok (.applied authorization value) := Answer.executed.inj answered
    obtain rfl := applied_authorize _ _ _ _ _ _ _ applied
    exact ⟨value, applied⟩
  · rintro ⟨value, applied⟩
    change Answer.kind (.executed (authorizeAndExecute machine.1 grant request apply
      machine.2).1) = some .applied
    rw [applied]
    rfl

/-- A closure that preserves its transaction is handed back what it was handed. So the state it
leaves is the state before the call with the record appended. -/
theorem succeeds_iff (preserving : (Call.execute grant request apply).Preserving)
    (Holds : InMemoryExecutionState → Prop) :
    (∃ value transaction left,
      apply ⟨machine.1.recordAudit (authorize machine.1 grant request)⟩
          (authorize machine.1 grant request) machine.2 = (.ok value, transaction, left) ∧
        Holds transaction.state) ↔
      Succeeds machine grant request apply ∧
        Holds (machine.1.recordAudit (authorize machine.1 grant request)) := by
  have handed := preserving ⟨machine.1.recordAudit (authorize machine.1 grant request)⟩
    (authorize machine.1 grant request) machine.2
  unfold Succeeds
  rcases ran : apply ⟨machine.1.recordAudit (authorize machine.1 grant request)⟩
    (authorize machine.1 grant request) machine.2 with ⟨answered, transaction, left⟩
  rw [ran] at handed
  obtain rfl : transaction = _ := handed
  constructor
  · rintro ⟨value, _, _, ⟨⟩, holds⟩
    exact ⟨⟨value, rfl⟩, holds⟩
  · rintro ⟨⟨value, rfl⟩, holds⟩
    exact ⟨value, _, left, rfl, holds⟩

/-- What may hinder a mint. It acts on no stored version, so the version check is void and the
two counters need room. -/
theorem unhindered_mint_iff (mint : request.isMint = true)
    (preserving : (Call.execute grant request apply).Preserving) :
    Unhindered machine.1 grant request apply machine.2 ↔
      machine.1.processed.lookup request.intentId = none ∧
        (authorize machine.1 grant request).outcome.decision.isAllowed = true ∧
        (machine.1.totalCount (mintKeys grant request).1 + request.requestedQuantity.toNat <
            UInt64.size ∧
          machine.1.principalCount (mintKeys grant request).2 +
            request.requestedQuantity.toNat < UInt64.size) ∧
        Succeeds machine grant request apply := by
  have noVersion : ∀ key, ¬ AdvancesVersion request key := by
    rintro key ⟨notMint, -⟩
    rw [mint] at notMint
    cases notMint
  constructor
  · rintro ⟨fresh, allowed, -, succeeds⟩
    obtain ⟨succeeds, room⟩ := (succeeds_iff preserving _).mp succeeds
    exact ⟨fresh, allowed, ⟨room.total mint, room.principal mint⟩, succeeds⟩
  · rintro ⟨fresh, allowed, ⟨total, principal⟩, succeeds⟩
    exact ⟨fresh, allowed, fun key advances => absurd advances (noVersion key),
      (succeeds_iff preserving _).mpr ⟨succeeds, fun _ => total, fun _ => principal,
        fun key advances => absurd advances (noVersion key)⟩⟩

/-- A new execution that the grant denies is answered with what it was evaluated to. The key and
the version are not looked at. -/
theorem denied_of_reason {reason : EvaluationDenyReason}
    (fresh : machine.1.processed.lookup request.intentId = none)
    (denied : (authorize machine.1 grant request).outcome.decision.denyReason = some reason) :
    (step machine (.execute grant request apply)).2 =
      .executed (.ok (.denied (authorize machine.1 grant request))) := by
  have refused : (authorize machine.1 grant request).outcome.decision.isAllowed = false := by
    rw [EvaluationDecision.isAllowed, denied]
    rfl
  simp only [step, authorizeAndExecute, fresh, refused, if_true]

end Calls

/-- Intents are processed exactly by the applied calls of a record. -/
theorem unprocessed_iff (environment : ε) (calls : List (Call ε τ))
    (keeps : AllKeepProcessed environment calls) (intentId : IntentId) :
    (history environment calls).1.1.processed.lookup intentId = none ↔
      appliedIn intentId (history environment calls).2 = [] := by
  rw [history_processed environment calls keeps, Option.toList_eq_nil_iff]

/-- The limit that a mint would exceed after the applied mints of a record. The total limit is
the first that is asked. -/
def quotaReached (grant : VerifiedTrustGrant) (request : MutationRequest)
    (record : List (Call ε τ × Answer τ)) : Option EvaluationDenyReason :=
  limitReached grant request (mintedUnder (mintKeys grant request).1 record)
    (mintedByPrincipal (mintKeys grant request).2 record)

/-- A quota is available until it is used up. In a run of preserving calls a mint is applied
exactly when no mutation was applied under its intent, the grant allows it on a new executor,
the exact sums of the applied mints reach no limit with it and fit their counter, and its
closure succeeds. A new mint that the grant allows and that reaches a limit is denied for the
limit.

Proof: an execution is applied exactly when nothing hinders it. The counters are the exact sums
of the record, so the guards on them become conditions on these sums; the room for the principal
follows from the room for the total. When only a limit is in the way, it is the reason of the
denial. -/
theorem mint_applied_iff (environment : ε) (calls : List (Call ε τ))
    (preserving : ∀ call ∈ calls, call.Preserving) (reached : InMemoryExecutionState × ε)
    (record : List (Call ε τ × Answer τ)) (ran : history environment calls = (reached, record))
    (grant : VerifiedTrustGrant) (request : MutationRequest) (apply : Mutation ε τ)
    (mint : request.isMint = true) (preserves : (Call.execute grant request apply).Preserving) :
    ((step reached (.execute grant request apply)).2.kind = some .applied ↔
      appliedIn request.intentId record = [] ∧
      (authorize .empty grant request).outcome.decision.isAllowed = true ∧
      quotaReached grant request record = none ∧
      mintedUnder (mintKeys grant request).1 record + request.requestedQuantity.toNat <
        UInt64.size ∧
      Succeeds reached grant request apply) ∧
    (appliedIn request.intentId record = [] →
      (authorize .empty grant request).outcome.decision.isAllowed = true →
      ∀ reason, quotaReached grant request record = some reason →
        ∃ authorization, (step reached (.execute grant request apply)).2 =
            .executed (.ok (.denied authorization)) ∧
          authorization.outcome.decision.denyReason = some reason) := by
  have fresh := unprocessed_iff environment calls
    (all_keep_processed_of_preserving environment calls preserving) request.intentId
  obtain ⟨totals, principals⟩ := history_counts environment calls preserving
  have fewer : mintedByPrincipal (mintKeys grant request).2 record ≤
      mintedUnder (mintKeys grant request).1 record := minted_by_principal_le _ record
  rw [ran] at fresh totals principals
  constructor
  · rw [kind_applied_iff, unhindered_mint_iff mint preserves, mint_allowed_iff _ mint, fresh,
      totals, principals]
    constructor
    · rintro ⟨unused, ⟨allowed, room⟩, ⟨total, -⟩, succeeds⟩
      exact ⟨unused, allowed, room, total, succeeds⟩
    · rintro ⟨unused, allowed, room, total, succeeds⟩
      exact ⟨unused, ⟨allowed, room⟩,
        ⟨total, lt_of_le_of_lt (Nat.add_le_add_right fewer _) total⟩, succeeds⟩
  · intro unused allowed reason exceeded
    have denied : (authorize reached.1 grant request).outcome.decision.denyReason = _ :=
      deny_reason_of_allowed_first reached.1 mint allowed
    rw [totals, principals] at denied
    have limited := denied.trans exceeded
    exact ⟨_, denied_of_reason (fresh.mpr unused) limited, limited⟩

/-- Another mint of one item by the principal with the actor p. -/
def smallMintAgain : MutationRequest :=
  Results.valueOf (smallMint [("actor", "p")] 1 "b") (by decide +kernel)

/-- After the one mint that the small grant allows a principal, another is denied for the
limit. -/
theorem small_mint_used_up :
    ∃ authorization, (step (history () (smallCalls [smallMintByActor])).1
        (.execute smallGrant smallMintAgain unchanged)).2 =
          .executed (.ok (.denied authorization)) ∧
      authorization.outcome.decision.denyReason = some .mintPerUserLimitReached :=
  (mint_applied_iff () (smallCalls [smallMintByActor]) (small_calls_preserving _) _ _ rfl
    smallGrant smallMintAgain unchanged (by decide +kernel) (fun _ _ _ => rfl)).2
    (by decide +kernel) (by decide +kernel) _ (by decide +kernel)

section Changes

variable {machine : InMemoryExecutionState × ε} {grant : VerifiedTrustGrant}
  {request : MutationRequest} {apply : Mutation ε τ} {key : ResourceKey}

/-- What is not a mint is evaluated as it was asked. -/
theorem authorize_change (state : InMemoryExecutionState) (advances : AdvancesVersion request key) :
    (authorize state grant request).outcome = evaluate grant request.request := by
  rw [authorize, evaluationRequest, if_neg (by rw [advances.1]; decide)]
  rfl

/-- What may hinder the change of a resource. It counts for no quota, so the stored version is
all that is compared and all that needs room. -/
theorem unhindered_change_iff (advances : AdvancesVersion request key)
    (preserving : (Call.execute grant request apply).Preserving) :
    Unhindered machine.1 grant request apply machine.2 ↔
      machine.1.processed.lookup request.intentId = none ∧
        (evaluate grant request.request).decision.isAllowed = true ∧
        (∃ current, machine.1.resourceVersions.lookup key = some current ∧
          request.expectedVersion = some current ∧ current.toNat + 1 < UInt64.size) ∧
        Succeeds machine grant request apply := by
  have only (asked : ResourceKey) (advancesToo : AdvancesVersion request asked) : asked = key :=
    Option.some.inj (Except.ok.inj (advancesToo.2.symm.trans advances.2))
  constructor
  · rintro ⟨fresh, allowed, current, succeeds⟩
    obtain ⟨succeeds, room⟩ := (succeeds_iff preserving _).mp succeeds
    obtain ⟨version, stored, expected⟩ := current key advances
    obtain ⟨versionToo, storedToo, fits⟩ := room.version key advances
    obtain rfl : version = versionToo := Option.some.inj (stored.symm.trans storedToo)
    rw [authorize_change _ advances] at allowed
    exact ⟨fresh, allowed, ⟨version, stored, expected, fits⟩, succeeds⟩
  · rintro ⟨fresh, allowed, ⟨version, stored, expected, fits⟩, succeeds⟩
    have notMint : ¬ request.isMint = true := by
      rw [advances.1]
      decide
    refine ⟨fresh, by rwa [authorize_change _ advances], ?_, (succeeds_iff preserving _).mpr
      ⟨succeeds, fun mint => absurd mint notMint, fun mint => absurd mint notMint, ?_⟩⟩
    · intro asked advancesToo
      rw [only asked advancesToo]
      exact ⟨version, stored, expected⟩
    · intro asked advancesToo
      rw [only asked advancesToo]
      exact ⟨version, stored, fits⟩

/-- A new change that the grant allows and that expects another version learns the stored
one. -/
theorem stale_of_other_version (advances : AdvancesVersion request key)
    (fresh : machine.1.processed.lookup request.intentId = none)
    (allowed : (evaluate grant request.request).decision.isAllowed = true) (current : UInt64)
    (stored : machine.1.resourceVersions.lookup key = some current)
    (other : request.expectedVersion ≠ some current) :
    (step machine (.execute grant request apply)).2 =
      .executed (.ok (.stale (authorize machine.1 grant request) current)) := by
  obtain ⟨resource, resourceType, expected, acted, typed, named⟩ :=
    request.existing_of_not_mint advances.1
  have expects : request.existingResource.bind ResourceRef.expectedVersion = some expected := by
    rw [acted]
    exact named
  have different : expected ≠ current := by
    rintro rfl
    exact other expects
  have checked : staleVersion machine.1 request (some key) = .ok (some current) := by
    simp only [staleVersion, stored, expects, Results.okOr]
    exact congrArg Except.ok (if_pos different)
  have permitted : (authorize machine.1 grant request).outcome.decision.isAllowed = true := by
    rwa [authorize_change _ advances]
  simp only [step, authorizeAndExecute, fresh, permitted, advances.2, checked,
    Bool.true_eq_false, if_false]

end Changes

/-- After a registration the stored version is the registered one plus the number of applied
changes. -/
theorem stored_version (environment : ε) (before segment : List (Call ε τ))
    (resource : ResourceRef) (key : ResourceKey) (version : UInt64)
    (named : ResourceKey.tryFrom resource = .ok key)
    (preserving : ∀ call ∈ segment, call.Preserving)
    (unregistered : ∀ call ∈ segment, ¬ call.Registers key) :
    let continued := historyAfter environment (before ++ [.register resource version]) segment
    ∃ current, continued.1.1.resourceVersions.lookup key = some current ∧
      current.toNat = version.toNat + (mutationsOf key continued.2).length := by
  refine VersionsCount.stored (Runs.run_invariant step _
    (fun call => call.Preserving ∧ ¬ call.Registers key)
    (fun record machine => VersionsCount key version record machine.1) ?_ ?_ segment
    fun call member => ⟨preserving call member, unregistered call member⟩)
  · rw [history_snoc]
    exact versions_count_registered _ resource key version named
  · intro record machine call admissible counted
    exact counted.next (step_version machine call admissible.1 key admissible.2)

/-- The current version is available. After a resource is registered and until it is registered
again, a call changes it exactly when no mutation was applied under its intent, the grant allows
it, it expects the registered version plus the number of applied changes, there is a next
version, and its closure succeeds. A new call that the grant allows and that expects another
version is stale, and learns the version that it should have expected.

What is said holds in runs whose applied calls kept the processed intents before the
registration, and whose closures leave the transaction as it is after it. Proof: the stored
version is the registered one plus the number of applied changes, so expecting it is expecting
this sum. The other guards are read off the exits. -/
theorem change_applied_iff (environment : ε) (before segment : List (Call ε τ))
    (resource : ResourceRef) (key : ResourceKey) (version : UInt64)
    (named : ResourceKey.tryFrom resource = .ok key)
    (keeps : AllKeepProcessed environment before)
    (preserving : ∀ call ∈ segment, call.Preserving)
    (unregistered : ∀ call ∈ segment, ¬ call.Registers key)
    (reached : InMemoryExecutionState × ε) (record : List (Call ε τ × Answer τ))
    (ran : historyAfter environment (before ++ [.register resource version]) segment =
      (reached, record))
    (grant : VerifiedTrustGrant) (request : MutationRequest) (apply : Mutation ε τ)
    (advances : AdvancesVersion request key)
    (preserves : (Call.execute grant request apply).Preserving) :
    let unused := appliedIn request.intentId
      (history environment (before ++ [.register resource version] ++ segment)).2 = []
    let allowed := (evaluate grant request.request).decision.isAllowed = true
    let current := version.toNat + (mutationsOf key record).length
    ((step reached (.execute grant request apply)).2.kind = some .applied ↔
      unused ∧ allowed ∧ request.expectedVersion.map UInt64.toNat = some current ∧
        current + 1 < UInt64.size ∧ Succeeds reached grant request apply) ∧
    (unused → allowed → request.expectedVersion.map UInt64.toNat ≠ some current →
      ∃ authorization stored, (step reached (.execute grant request apply)).2 =
          .executed (.ok (.stale authorization stored)) ∧ stored.toNat = current) := by
  intro unused allowed current
  have whole : (history environment (before ++ [.register resource version] ++ segment)).1 =
      reached := by
    rw [history, Runs.run_append]
    exact congrArg Prod.fst ran
  have fresh : reached.1.processed.lookup request.intentId = none ↔ unused := by
    rw [← whole]
    refine unprocessed_iff environment _ (.append environment _ segment ?_ ?_) request.intentId
    · refine keeps.append environment before _ fun call registration machine => ?_
      obtain rfl := List.mem_singleton.mp registration
      trivial
    · exact fun call member machine =>
        keeps_processed_of_preserving machine call (preserving call member)
  obtain ⟨stored, found, counted⟩ := stored_version environment before segment resource key
    version named preserving unregistered
  rw [ran] at found counted
  have expects : request.expectedVersion.map UInt64.toNat = some current ↔
      request.expectedVersion = some stored := by
    rw [show current = stored.toNat from counted.symm, Option.map_eq_some_iff]
    constructor
    · rintro ⟨expected, isExpected, same⟩
      rw [isExpected, UInt64.toNat_inj.mp same]
    · intro isExpected
      exact ⟨stored, isExpected, rfl⟩
  rw [ne_eq, expects]
  constructor
  · rw [kind_applied_iff, unhindered_change_iff advances preserves, fresh]
    constructor
    · rintro ⟨new, permitted, ⟨version, foundToo, expected, fits⟩, succeeds⟩
      obtain rfl : stored = version := Option.some.inj (found.symm.trans foundToo)
      exact ⟨new, permitted, expected, lt_of_eq_of_lt (congrArg (· + 1) counted.symm) fits,
        succeeds⟩
    · rintro ⟨new, permitted, expected, fits, succeeds⟩
      exact ⟨new, permitted, ⟨stored, found, expected,
        lt_of_eq_of_lt (congrArg (· + 1) counted) fits⟩, succeeds⟩
  · intro new permitted other
    exact ⟨_, stored, stale_of_other_version advances (fresh.mpr new) permitted stored found other,
      counted⟩

/-- A recognition of the item r under another intent, which expects version 5 too. -/
def smallSecondRecognition : MutationRequest :=
  Results.valueOf (do
    let target ← AuthorityId.new Text.asciiCaseMapping "did:t"
    let issuer ← AuthorityId.new Text.asciiCaseMapping "did:i"
    let resource ← ResourceContext.new "item"
    let item ← ResourceRef.newTyped issuer "item" "r"
    let request ← EvaluationRequest.new (.capability .recognize)
      (.existing (item.withExpectedVersion 5)) target target resource smallInstant
    let intentId ← IntentId.new "b"
    MutationRequest.tryFrom (request.withIntentId intentId)) (by decide +kernel)

/-- A second caller who saw the item at version 5 learns that it is at version 6. The first
caller's recognition was applied, so the second one is neither applied nor lost without
notice. -/
theorem small_item_stale :
    ∃ authorization stored, (step (historyAfter () [.register smallItem 5]
        (smallCalls [smallRecognitionOfFive])).1
          (.execute smallGrant smallSecondRecognition unchanged)).2 =
            .executed (.ok (.stale authorization stored)) ∧ stored.toNat = 6 := by
  obtain ⟨authorization, stored, answered, counted⟩ :=
    (change_applied_iff () [] (smallCalls [smallRecognitionOfFive]) smallItem smallItemKey 5 rfl
      (all_keep_processed_of_preserving () [] (by simp)) (small_calls_preserving _) (by
        intro call member
        obtain ⟨request, -, rfl⟩ := List.mem_map.mp member
        exact id) _ _ rfl smallGrant smallSecondRecognition unchanged (by decide +kernel)
      (fun _ _ _ => rfl)).2 (by decide +kernel) (by decide +kernel) (by decide +kernel)
  refine ⟨authorization, stored, answered, counted.trans ?_⟩
  decide +kernel

end TrustGrant
