import TrustGrant.Execute.Calls

/-!
# What a closure can do to the executor

The transaction handed to a closure carries the whole state, and whatever the closure
leaves in its place is committed. A closure can put any transaction there, an empty one or
one kept from an earlier call. After an applied call the executor still holds what it held
before exactly when the transaction left behind does, counting what the executor itself
adds afterwards.

For one call the result is exact. For runs it is about calls whose applied closures retained
the state, and it then speaks of any two moments of the run: nothing that was there at the
first is missing at the second.
-/

namespace TrustGrant

open Rust Library InMemoryAtomicInventoryExecutor

variable {ε τ : Type*}

/-- No counter of a map has decreased or disappeared. New counters may have been added. -/
def Kept {κ : Type} [DecidableEq κ] (before after : HashMap κ UInt64) : Prop :=
  ∀ key value, before.lookup key = some value →
    ∃ later, after.lookup key = some later ∧ value.toNat ≤ later.toNat

/-- The executor lost nothing in a call that it authorized. Each field speaks of one part of the
state, and of what the call adds to it. -/
structure Integrity (before after : InMemoryExecutionState)
    (authorization : MutationAuthorization) : Prop where
  processed : ∀ intentId, (before.processed.lookup intentId).isSome = true →
    (after.processed.lookup intentId).isSome = true
  totals : Kept before.totalMints after.totalMints
  principals : Kept before.mintsForPrincipal after.mintsForPrincipal
  versions : Kept before.resourceVersions after.resourceVersions
  auditLog : before.auditLog <+: after.auditLog
  audited : authorization ∈ after.auditLog

/-- A transaction retains a state up to what the executor adds for a request. It is a predicate
on what the closure left behind, before the commit adds to it. -/
structure Retained (grant : VerifiedTrustGrant) (request : MutationRequest)
    (before left : InMemoryExecutionState) (authorization : MutationAuthorization) : Prop where
  processed : ∀ intentId, (before.processed.lookup intentId).isSome = true →
    (left.processed.lookup intentId).isSome = true
  totals : ∀ key value, before.totalMints.lookup key = some value →
    ((left.totalMints.lookup key).isSome = true ∨ 0 < mintedTotal grant request key) ∧
      value.toNat ≤ left.totalCount key + mintedTotal grant request key
  principals : ∀ key value, before.mintsForPrincipal.lookup key = some value →
    ((left.mintsForPrincipal.lookup key).isSome = true ∨
        0 < mintedForPrincipal grant request key) ∧
      value.toNat ≤ left.principalCount key + mintedForPrincipal grant request key
  versions : ∀ key value, before.resourceVersions.lookup key = some value →
    ∃ version, left.resourceVersions.lookup key = some version ∧
      (value.toNat ≤ version.toNat ∨
        AdvancesVersion request key ∧ value.toNat = version.toNat + 1)
  auditLog : before.auditLog <+: left.auditLog
  audited : authorization ∈ left.auditLog

/-- Counters are kept exactly when each is present and no smaller. -/
theorem kept_iff {κ : Type} [DecidableEq κ] (before after : HashMap κ UInt64) :
    Kept before after ↔ ∀ key value, before.lookup key = some value →
      (after.lookup key).isSome = true ∧ value.toNat ≤ ((after.lookup key).getD 0).toNat := by
  refine forall_congr' fun key => forall_congr' fun value => imp_congr_right fun _ => ?_
  cases after.lookup key with
  | none => simp
  | some later => simp

/-- Versions are kept by a commit exactly when the transaction retained them. The key that the
commit advances is the exception: what is left for it may be one lower than before. -/
theorem versions_kept_iff (grant : VerifiedTrustGrant) (request : MutationRequest)
    (authorization : MutationAuthorization) (before left after : InMemoryExecutionState)
    (commits : Committed grant request authorization left after) :
    Kept before.resourceVersions after.resourceVersions ↔
      ∀ key value, before.resourceVersions.lookup key = some value →
        ∃ version, left.resourceVersions.lookup key = some version ∧
          (value.toNat ≤ version.toNat ∨
            AdvancesVersion request key ∧ value.toNat = version.toNat + 1) := by
  refine forall_congr' fun key => forall_congr' fun value => imp_congr_right fun _ => ?_
  by_cases advances : AdvancesVersion request key
  · obtain ⟨found, version, leftFound, afterFound, advanced⟩ := commits.advanced key advances
    rw [leftFound, afterFound]
    constructor
    · rintro ⟨later, same, bounded⟩
      cases same
      refine ⟨found, rfl, ?_⟩
      rcases Nat.lt_or_ge found.toNat value.toNat with more | less
      · exact .inr ⟨advances, by omega⟩
      · exact .inl less
    · rintro ⟨other, same, bounded | ⟨-, bounded⟩⟩
      · cases same
        exact ⟨version, rfl, by omega⟩
      · cases same
        exact ⟨version, rfl, by omega⟩
  · rw [commits.versions key advances]
    simp [advances]

/-- A commit keeps the processed intents exactly when the transaction retained them. The commit
inserts the intent of the call, which was not processed before. -/
theorem processed_kept_iff (grant : VerifiedTrustGrant) (request : MutationRequest)
    (authorization : MutationAuthorization) (before left after : InMemoryExecutionState)
    (fresh : before.processed.lookup request.intentId = none)
    (commits : Committed grant request authorization left after) (intentId : IntentId) :
    ((before.processed.lookup intentId).isSome = true →
        (after.processed.lookup intentId).isSome = true) ↔
      ((before.processed.lookup intentId).isSome = true →
        (left.processed.lookup intentId).isSome = true) := by
  rw [commits.processed, HashMap.lookup_insert_eq]
  by_cases asked : intentId = request.intentId
  · subst asked
    simp [fresh]
  · rw [if_neg asked]

/-- After a commit the executor lost nothing exactly when the transaction retained it. Both sides
are records with the same fields, and the lemmas above compare them field by field. -/
theorem integrity_iff_retained (grant : VerifiedTrustGrant) (request : MutationRequest)
    (authorization : MutationAuthorization) (before left after : InMemoryExecutionState)
    (fresh : before.processed.lookup request.intentId = none)
    (commits : Committed grant request authorization left after) :
    Integrity before after authorization ↔
      Retained grant request before left authorization := by
  have processed := processed_kept_iff grant request authorization before left after fresh commits
  have versions := versions_kept_iff grant request authorization before left after commits
  have totals : Kept before.totalMints after.totalMints ↔ _ := kept_iff _ _
  have principals : Kept before.mintsForPrincipal after.mintsForPrincipal ↔ _ := kept_iff _ _
  have sums : ∀ key, ((after.totalMints.lookup key).getD 0).toNat = _ := commits.totals
  have principalSums : ∀ key, ((after.mintsForPrincipal.lookup key).getD 0).toNat = _ :=
    commits.principals
  simp only [sums, commits.totalPresent] at totals
  simp only [principalSums, commits.principalPresent] at principals
  constructor
  · rintro ⟨intents, totalsKept, principalsKept, versionsKept, audit, audited⟩
    rw [commits.auditLog] at audit audited
    exact ⟨fun intentId => (processed intentId).mp (intents intentId), totals.mp totalsKept,
      principals.mp principalsKept, versions.mp versionsKept, audit, audited⟩
  · rintro ⟨intents, totalsKept, principalsKept, versionsKept, audit, audited⟩
    rw [← commits.auditLog] at audit audited
    exact ⟨fun intentId => (processed intentId).mpr (intents intentId), totals.mpr totalsKept,
      principals.mpr principalsKept, versions.mpr versionsKept, audit, audited⟩

/-- The handed transaction retains everything. It is the state before the call with one more
record in the log. -/
theorem handed_retained (grant : VerifiedTrustGrant) (request : MutationRequest)
    (state : InMemoryExecutionState) (authorization : MutationAuthorization) :
    Retained grant request state (state.recordAudit authorization) authorization where
  processed _ present := present
  totals key value found := by
    have counted : (state.recordAudit authorization).totalCount key = value.toNat := by
      change ((state.totalMints.lookup key).getD 0).toNat = value.toNat
      rw [found]
      rfl
    rw [counted]
    exact ⟨.inl (Option.isSome_of_eq_some found), Nat.le_add_right _ _⟩
  principals key value found := by
    have counted : (state.recordAudit authorization).principalCount key = value.toNat := by
      change ((state.mintsForPrincipal.lookup key).getD 0).toNat = value.toNat
      rw [found]
      rfl
    rw [counted]
    exact ⟨.inl (Option.isSome_of_eq_some found), Nat.le_add_right _ _⟩
  versions key value found := ⟨value, found, .inl (Nat.le_refl _)⟩
  auditLog := List.prefix_append _ _
  audited := by simp [InMemoryExecutionState.recordAudit]

/-- An applied call loses nothing exactly when the transaction its closure leaves behind
retained the state, up to what the executor adds. It does when the closure leaves the
handed transaction, and it does not when the closure leaves an empty one. -/
theorem applied_integrity (state : InMemoryExecutionState) (grant : VerifiedTrustGrant)
    (request : MutationRequest) (apply : Mutation ε τ) (environment : ε)
    (authorization : MutationAuthorization) (value : τ)
    (applied : (authorizeAndExecute state grant request apply environment).1 =
      .ok (.applied authorization value)) :
    (Integrity state (authorizeAndExecute state grant request apply environment).2.1
        authorization ↔
      Retained grant request state (leftBehind state grant request apply environment).state
        (authorize state grant request)) ∧
    (leftBehind state grant request apply environment =
        ⟨state.recordAudit (authorize state grant request)⟩ →
      Integrity state (authorizeAndExecute state grant request apply environment).2.1
        authorization) ∧
    (leftBehind state grant request apply environment = .empty →
      ¬ Integrity state (authorizeAndExecute state grant request apply environment).2.1
        authorization) := by
  have exits := exit state grant request apply environment
  rw [applied] at exits
  generalize (authorizeAndExecute state grant request apply environment).2.1 = after at exits ⊢
  generalize (authorizeAndExecute state grant request apply environment).2.2 = left at exits
  cases exits with
  | applied value transaction left after fresh allowed ran commits =>
    have behind : leftBehind state grant request apply environment = transaction := by
      rw [leftBehind, ran]
    rw [behind]
    have exact := integrity_iff_retained grant request _ state transaction.state after fresh
      commits
    refine ⟨exact, ?_, ?_⟩
    · rintro rfl
      exact exact.mpr (handed_retained grant request state _)
    · rintro rfl integrity
      exact absurd (exact.mp integrity).audited List.not_mem_nil

/-- Nothing that executions keep was lost between two states. Registrations may set any
version, so versions are left out. -/
structure Lossless (before after : InMemoryExecutionState) : Prop where
  processed : ∀ intentId, (before.processed.lookup intentId).isSome = true →
    (after.processed.lookup intentId).isSome = true
  totals : Kept before.totalMints after.totalMints
  principals : Kept before.mintsForPrincipal after.mintsForPrincipal
  auditLog : before.auditLog <+: after.auditLog

/-- Nothing is lost where nothing changes. -/
theorem Kept.refl {κ : Type} [DecidableEq κ] (map : HashMap κ UInt64) : Kept map map :=
  fun _ value found => ⟨value, found, Nat.le_refl _⟩

/-- What two changes keep, both together keep. -/
theorem Kept.trans {κ : Type} [DecidableEq κ] {first second third : HashMap κ UInt64}
    (earlier : Kept first second) (later : Kept second third) : Kept first third := by
  intro key value found
  obtain ⟨middle, middleFound, middleBound⟩ := earlier key value found
  obtain ⟨last, lastFound, lastBound⟩ := later key middle middleFound
  exact ⟨last, lastFound, Nat.le_trans middleBound lastBound⟩

/-- A state has lost nothing of itself. -/
theorem Lossless.refl (state : InMemoryExecutionState) : Lossless state state :=
  ⟨fun _ present => present, .refl _, .refl _, List.prefix_refl _⟩

/-- What two calls keep, both together keep. This makes the run lemma an induction over calls. -/
theorem Lossless.trans {first second third : InMemoryExecutionState}
    (earlier : Lossless first second) (later : Lossless second third) : Lossless first third :=
  ⟨fun intentId present => later.processed intentId (earlier.processed intentId present),
    earlier.totals.trans later.totals, earlier.principals.trans later.principals,
    earlier.auditLog.trans later.auditLog⟩

/-- An audit record loses nothing. -/
theorem record_audit_lossless (state : InMemoryExecutionState)
    (authorization : MutationAuthorization) :
    Lossless state (state.recordAudit authorization) :=
  ⟨fun _ present => present, .refl _, .refl _, List.prefix_append _ _⟩

/-- If the call is applied, the transaction its closure leaves behind retained the state. Nothing
is asked of the closures of other calls. -/
def Retains (machine : InMemoryExecutionState × ε) : Call ε τ → Prop
  | .register _ _ => True
  | .execute grant request apply =>
    (step machine (.execute grant request apply)).2.kind = some .applied →
      Retained grant request machine.1 (leftBehind machine.1 grant request apply machine.2).state
        (authorize machine.1 grant request)

/-- A call loses nothing when its closure retained the state. Only an applied call replaces the
state by what a closure left; the other exits keep it or append a record. -/
theorem step_lossless (machine : InMemoryExecutionState × ε) (call : Call ε τ)
    (retains : Retains machine call) : Lossless machine.1 (step machine call).1.1 := by
  cases call with
  | register resource version =>
    obtain ⟨versions, result, stepped⟩ := step_register (τ := τ) machine resource version
    rw [stepped]
    exact ⟨fun _ present => present, .refl _, .refl _, List.prefix_refl _⟩
  | execute grant request apply =>
    have left : Retained grant request machine.1
        (leftBehind machine.1 grant request apply machine.2).state
          (authorize machine.1 grant request) ∨
        (step machine (.execute grant request apply)).2.kind ≠ some .applied := by
      by_cases applied : (step machine (.execute grant request apply)).2.kind = some .applied
      · exact .inl (retains applied)
      · exact .inr applied
    obtain ⟨result, after, environment, stepped, exits⟩ := step_exit machine grant request apply
    rw [stepped] at left ⊢
    cases exits with
    | duplicate previous found same => exact .refl _
    | conflict previous found different => exact .refl _
    | denied fresh refused => exact record_audit_lossless _ _
    | rejected problem fresh allowed => exact .refl _
    | stale currentVersion fresh allowed => exact record_audit_lossless _ _
    | rolledBack problem answered transaction left fresh allowed ran => exact .refl _
    | applied value transaction environment after fresh allowed ran commits =>
      have retained := left.resolve_right (not_not_intro rfl)
      rw [leftBehind, ran] at retained
      have integrity := (integrity_iff_retained grant request _ machine.1 transaction.state after
        fresh commits).mpr retained
      exact ⟨integrity.processed, integrity.totals, integrity.principals, integrity.auditLog⟩

/-- Every applied call of the run was made with a closure that retained the state. -/
def AllRetain (environment : ε) (calls : List (Call ε τ)) : Prop :=
  ∀ before call after, calls = before ++ call :: after →
    Retains (history environment before).1 call

/-- Nothing is lost between a state of such a run and its end. The induction is on the calls that
come later. -/
theorem history_lossless (environment : ε) (earlier later : List (Call ε τ))
    (retain : AllRetain environment (earlier ++ later)) :
    Lossless (history environment earlier).1.1 (history environment (earlier ++ later)).1.1 := by
  induction later using List.reverseRecOn with
  | nil =>
    rw [List.append_nil]
    exact .refl _
  | append_singleton later call inductionHypothesis =>
    rw [← List.append_assoc] at retain ⊢
    have before : AllRetain environment (earlier ++ later) := by
      intro first asked rest split
      exact retain first asked (rest ++ [call]) (by simp [split])
    refine (inductionHypothesis before).trans ?_
    rw [history_snoc]
    exact step_lossless _ call (retain (earlier ++ later) call [] rfl)

/-- What a run keeps: each applied call loses nothing, nothing is lost between a state of
the run and its end, and the end remembers every applied call. -/
structure RunIntegrity (environment : ε) (calls : List (Call ε τ)) : Prop where
  applied : ∀ before grant request apply after authorization value,
    calls = before ++ .execute grant request apply :: after →
      (step (history environment before).1 (.execute grant request apply)).2 =
          .executed (.ok (.applied authorization value)) →
        Integrity (history environment before).1.1
          (step (history environment before).1 (.execute grant request apply)).1.1 authorization
  lossless : ∀ earlier later, calls = earlier ++ later →
    Lossless (history environment earlier).1.1 (history environment calls).1.1
  remembered : ∀ grant request apply authorization value,
    (.execute grant request apply, .executed (.ok (.applied authorization value))) ∈
        (history environment calls).2 →
      authorization ∈ (history environment calls).1.1.auditLog ∧
        ((history environment calls).1.1.processed.lookup request.intentId).isSome = true

/-- A call that is applied, whose closure retained the state, loses nothing. Besides, its intent
is processed afterwards. -/
theorem step_integrity (machine : InMemoryExecutionState × ε) (grant : VerifiedTrustGrant)
    (request : MutationRequest) (apply : Mutation ε τ) (authorization : MutationAuthorization)
    (value : τ)
    (answered : (step machine (.execute grant request apply)).2 =
      .executed (.ok (.applied authorization value)))
    (retains : Retains machine (.execute grant request apply)) :
    Integrity machine.1 (step machine (.execute grant request apply)).1.1 authorization ∧
      ((step machine (.execute grant request apply)).1.1.processed.lookup
        request.intentId).isSome = true := by
  have retained := retains (by rw [answered]; rfl)
  have applied := Answer.executed.inj answered
  refine ⟨(applied_integrity machine.1 grant request apply machine.2 authorization value
    applied).1.mpr retained, ?_⟩
  obtain ⟨result, after, environment, stepped, exits⟩ := step_exit machine grant request apply
  rw [stepped] at answered ⊢
  obtain rfl := Answer.executed.inj answered
  cases exits with
  | applied value transaction environment after fresh allowed ran commits =>
    rw [commits.processed, HashMap.lookup_insert_eq, if_pos rfl]
    rfl

/-- In a run whose applied calls all retained the state, integrity holds throughout. What an
applied call added is there right after it, and the calls that come later lose nothing. -/
theorem run_integrity (environment : ε) (calls : List (Call ε τ))
    (retain : AllRetain environment calls) : RunIntegrity environment calls where
  applied before grant request apply after authorization value split answered :=
    (step_integrity _ grant request apply authorization value answered
      (retain before _ after split)).1
  lossless := by
    rintro earlier later rfl
    exact history_lossless environment earlier later retain
  remembered := by
    intro grant request apply authorization value recorded
    obtain ⟨before, after, split, answered⟩ := Runs.recorded_at step _ calls _ recorded
    obtain ⟨integrity, present⟩ := step_integrity (history environment before).1 grant request
      apply authorization value answered.symm (retain before _ after split)
    have later := history_lossless environment (before ++ [.execute grant request apply]) after
      (by rw [List.append_assoc, List.singleton_append, ← split]; exact retain)
    rw [List.append_assoc, List.singleton_append, ← split] at later
    rw [history_snoc] at later
    exact ⟨later.auditLog.subset integrity.audited, later.processed _ present⟩

/-- Closures that leave the transaction they are handed retain the state. So the result on runs
holds for all closures of this kind. -/
theorem all_retain_of_preserving (environment : ε) (calls : List (Call ε τ))
    (preserving : ∀ call ∈ calls, call.Preserving) : AllRetain environment calls := by
  rintro before call after rfl
  cases call with
  | register resource version => trivial
  | execute grant request apply =>
    intro _
    have handed := preserving (.execute grant request apply) (by simp)
    rw [leftBehind, handed]
    exact handed_retained grant request _ _

/-- For one call, integrity holds exactly when the transaction left behind retained the state;
and in every run whose applied calls all retained it, integrity holds throughout. A commit adds
to what is left behind and takes nothing away, so all that can be lost is what the closure lost;
the run part is by induction on the calls. -/
theorem applied_integrity_iff :
    (∀ (state : InMemoryExecutionState) (grant : VerifiedTrustGrant) (request : MutationRequest)
      (apply : Mutation ε τ) (environment : ε) (authorization : MutationAuthorization) (value : τ),
      (authorizeAndExecute state grant request apply environment).1 =
          .ok (.applied authorization value) →
        (Integrity state (authorizeAndExecute state grant request apply environment).2.1
            authorization ↔
          Retained grant request state (leftBehind state grant request apply environment).state
            (authorize state grant request)) ∧
        (leftBehind state grant request apply environment =
            ⟨state.recordAudit (authorize state grant request)⟩ →
          Integrity state (authorizeAndExecute state grant request apply environment).2.1
            authorization) ∧
        (leftBehind state grant request apply environment = .empty →
          ¬ Integrity state (authorizeAndExecute state grant request apply environment).2.1
            authorization)) ∧
    ∀ (environment : ε) (calls : List (Call ε τ)), AllRetain environment calls →
      RunIntegrity environment calls :=
  ⟨applied_integrity, run_integrity⟩

/-- A closure that replaces the transaction by an empty one. -/
def reset : Mutation Unit Unit := fun _ _ environment => (.ok (), .empty, environment)

/-- A registration and a mint: a state in which there is something to lose. -/
def smallBeginning : List (Call Unit Unit) :=
  [.register smallItem 5, .execute smallGrant smallMintByActor unchanged]

/-- The closures of the beginning leave the transaction as it is. -/
theorem small_beginning_preserving (requests : List MutationRequest) :
    ∀ call ∈ smallBeginning ++ smallCalls requests, call.Preserving := by
  intro call member
  rcases List.mem_append.mp member with earlier | later
  · rcases List.mem_pair.mp earlier with rfl | rfl
    · trivial
    · exact fun _ _ _ => rfl
  · exact small_calls_preserving requests call later

/-- With closures that change nothing, a mint after the beginning loses neither the version, nor
the intent, the counts and the record of the earlier mint, and nothing is lost in the run. A
closure that changes nothing leaves the handed transaction, which retains everything. -/
theorem small_mint_integrity :
    (∃ authorization, Integrity (history () smallBeginning).1.1
      (history () (smallBeginning ++ smallCalls [smallMintByOther])).1.1 authorization) ∧
    RunIntegrity () (smallBeginning ++ smallCalls [smallMintByOther]) := by
  have kind : (step (history () smallBeginning).1
      (.execute smallGrant smallMintByOther unchanged)).2.kind = some .applied := by
    decide +kernel
  obtain ⟨authorization, value, answered⟩ := Answer.applied_of_kind _ kind
  obtain ⟨ofCall, ofRun⟩ := applied_integrity_iff (ε := Unit) (τ := Unit)
  constructor
  · exact ⟨authorization, (ofCall (history () smallBeginning).1.1 smallGrant smallMintByOther
      unchanged () authorization value (Answer.executed.inj answered)).2.1 rfl⟩
  · exact ofRun () _ (all_retain_of_preserving () _ (small_beginning_preserving _))

/-- An applied call whose closure replaces the transaction loses the earlier intent. The executor
commits whatever transaction the closure leaves behind, and this one starts from nothing. -/
theorem reset_loses_history :
    ((history () [.execute smallGrant smallMintByActor unchanged,
        .execute smallGrant smallMintByOther reset]).2.map fun pair => pair.2.kind) =
      [some .applied, some .applied] ∧
    ∀ authorization, ¬ Integrity (history () [.execute smallGrant smallMintByActor unchanged]).1.1
      (history () [.execute smallGrant smallMintByActor unchanged,
        .execute smallGrant smallMintByOther reset]).1.1 authorization := by
  refine ⟨by decide +kernel, ?_⟩
  intro authorization integrity
  have lost : ((history () [.execute smallGrant smallMintByActor unchanged,
      .execute smallGrant smallMintByOther reset]).1.1.processed.lookup
        smallMintByActor.intentId).isSome = false := by decide +kernel
  have kept := integrity.processed smallMintByActor.intentId (by decide +kernel)
  rw [lost] at kept
  cases kept

end TrustGrant
