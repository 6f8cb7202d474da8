import TrustGrant.Execute.Calls

/-!
# Resource versions over whole runs

Between two registrations of a resource its stored version moves only when a mutation of
it is applied, and then by one from the version that the mutation expected. The expected
versions of the applied mutations are therefore consecutive, so none is lost and no two of
them were made on the same version.

A run between two registrations keeps a count: the stored version is the registered one plus
the number of applied mutations, and the expected versions count up in between. One step
keeps the count, and distinctness of the expected versions is a fact about a count.
-/

namespace TrustGrant

open Rust Library InMemoryAtomicInventoryExecutor

variable {ε τ : Type*}

/-- The version of its resource that the caller of a request saw. -/
def MutationRequest.expectedVersion (request : MutationRequest) : Option UInt64 :=
  request.existingResource.bind ResourceRef.expectedVersion

/-- The call registers the resource of a key. -/
def Call.Registers (key : ResourceKey) : Call ε τ → Prop
  | .register resource _ => ResourceKey.tryFrom resource = .ok key
  | .execute _ _ _ => False

/-- Whether a request advances the version of a resource is decided by its binding. -/
instance (request : MutationRequest) (key : ResourceKey) :
    Decidable (AdvancesVersion request key) :=
  inferInstanceAs (Decidable (request.isMint = false ∧ existingKey request = .ok (some key)))

/-- The request of a call that was answered as an applied mutation of a key. A mint is none, as
it acts on no stored resource. -/
def appliedMutation (key : ResourceKey) : Call ε τ × Answer τ → Option MutationRequest
  | (.execute _ request _, .executed (.ok (.applied _ _))) =>
    if AdvancesVersion request key then some request else none
  | _ => none

/-- The requests of the applied mutations of a key in a record, in their order. -/
def mutationsOf (key : ResourceKey) (record : List (Call ε τ × Answer τ)) :
    List MutationRequest :=
  record.filterMap (appliedMutation key)

/-- The run that continues where earlier calls led. Its record begins anew, so it is the record
of the segment. -/
def historyAfter (environment : ε) (earlier later : List (Call ε τ)) :
    (InMemoryExecutionState × ε) × List (Call ε τ × Answer τ) :=
  Runs.run step (history environment earlier).1 later

/-- What one call does to the stored version of a key, by the mutations of the key it
applied: one advances the version that it expected, and none leaves the version alone. -/
inductive VersionStep (key : ResourceKey) (before after : InMemoryExecutionState) :
    List MutationRequest → Prop
  | advanced (request : MutationRequest) (current next : UInt64)
      (stored : before.resourceVersions.lookup key = some current)
      (expected : request.expectedVersion = some current)
      (stepped : after.resourceVersions.lookup key = some next)
      (larger : next.toNat = current.toNat + 1) : VersionStep key before after [request]
  | kept (same : after.resourceVersions.lookup key = before.resourceVersions.lookup key) :
      VersionStep key before after []

/-- The version check passes exactly on the stored version. An unknown resource and an absent
expected version are errors, and another version is a stale answer. -/
theorem stale_version_none_iff (state : InMemoryExecutionState) (request : MutationRequest)
    (key : ResourceKey) :
    staleVersion state request (some key) = .ok none ↔
      ∃ current, state.resourceVersions.lookup key = some current ∧
        request.expectedVersion = some current := by
  simp only [staleVersion, MutationRequest.expectedVersion, Results.bind_ok_iff,
    Results.ok_or_ok_iff, Results.pure_ok_iff]
  constructor
  · rintro ⟨current, stored, expected, named, checked⟩
    split at checked
    · cases checked
    · rename_i same
      exact ⟨current, stored, by rw [named, not_not.mp same]⟩
  · rintro ⟨current, stored, expected⟩
    exact ⟨current, stored, current, expected, by simp⟩

/-- An applied mutation of a key expected the version stored before it. The version check comes
before the closure runs. -/
theorem applied_on_current_version (state : InMemoryExecutionState) (grant : VerifiedTrustGrant)
    (request : MutationRequest) (apply : Mutation ε τ) (environment : ε) (key : ResourceKey)
    (authorization : MutationAuthorization) (value : τ)
    (applied : (authorizeAndExecute state grant request apply environment).1 =
      .ok (.applied authorization value))
    (keyed : existingKey request = .ok (some key)) :
    ∃ current, state.resourceVersions.lookup key = some current ∧
      request.expectedVersion = some current := by
  rw [← stale_version_none_iff]
  unfold authorizeAndExecute at applied
  split at applied
  · split at applied <;> simp at applied
  · simp only [keyed] at applied
    split at applied
    · simp at applied
    · split at applied
      · simp at applied
      · simp at applied
      · assumption

/-- What one preserving call that does not register a key does to its version. At each exit the
version is kept, unless the call was applied and acts on the key; then it is one more. -/
theorem step_version (machine : InMemoryExecutionState × ε) (call : Call ε τ)
    (preserving : call.Preserving) (key : ResourceKey) (unregistered : ¬ call.Registers key) :
    VersionStep key machine.1 (step machine call).1.1
      (mutationsOf key [(call, (step machine call).2)]) := by
  cases call with
  | register resource version =>
    apply VersionStep.kept
    simp only [step, registerResource]
    cases named : ResourceKey.tryFrom resource with
    | error problem => rfl
    | ok other =>
      refine (HashMap.lookup_insert_eq _ _ _ _).trans (if_neg ?_)
      rintro rfl
      exact unregistered named
  | execute grant request apply =>
    have onCurrent := applied_on_current_version machine.1 grant request apply machine.2 key
    obtain ⟨result, after, left, stepped, exits⟩ := step_exit machine grant request apply
    have answered : (authorizeAndExecute machine.1 grant request apply machine.2).1 = result :=
      Answer.executed.inj (congrArg Prod.snd stepped)
    rw [stepped]
    cases exits with
    | duplicate previous found same => exact .kept rfl
    | conflict previous found different => exact .kept rfl
    | denied fresh refused => exact .kept rfl
    | rejected problem fresh allowed => exact .kept rfl
    | stale currentVersion fresh allowed => exact .kept rfl
    | rolledBack problem answered transaction left fresh allowed ran => exact .kept rfl
    | applied value transaction left after fresh allowed ran commits =>
      have handed : transaction = ⟨machine.1.recordAudit (authorize machine.1 grant request)⟩ := by
        rw [← preserving ⟨machine.1.recordAudit (authorize machine.1 grant request)⟩
          (authorize machine.1 grant request) machine.2, ran]
      subst handed
      by_cases advances : AdvancesVersion request key
      · obtain ⟨before, version, found, stored, larger⟩ := commits.advanced key advances
        obtain ⟨current, seen, expected⟩ := onCurrent _ value answered advances.2
        obtain rfl : before = current := Option.some.inj (found.symm.trans seen)
        simp only [mutationsOf, List.filterMap_cons, appliedMutation, if_pos advances,
          List.filterMap_nil]
        exact .advanced request before version seen expected stored larger
      · simp only [mutationsOf, List.filterMap_cons, appliedMutation, if_neg advances,
          List.filterMap_nil]
        exact .kept (commits.versions key advances)

/-- Along a run the applied mutations of a key expected consecutive versions, and the
stored version is the next one. -/
structure VersionsCount (key : ResourceKey) (version : UInt64)
    (record : List (Call ε τ × Answer τ)) (state : InMemoryExecutionState) : Prop where
  stored : ∃ current, state.resourceVersions.lookup key = some current ∧
    current.toNat = version.toNat + (mutationsOf key record).length
  expected : (mutationsOf key record).map
      (fun request => request.expectedVersion.map UInt64.toNat) =
    (List.range' version.toNat (mutationsOf key record).length).map some

/-- One call keeps the count of versions. The expected versions of the record count up from the
registered one, and that of an applied call is the next. -/
theorem VersionsCount.next {key : ResourceKey} {version : UInt64}
    {record : List (Call ε τ × Answer τ)} {machine : InMemoryExecutionState × ε}
    {call : Call ε τ} (counted : VersionsCount key version record machine.1)
    (stepped : VersionStep key machine.1 (step machine call).1.1
      (mutationsOf key [(call, (step machine call).2)])) :
    VersionsCount key version (record ++ [(call, (step machine call).2)])
      (step machine call).1.1 := by
  have grown : mutationsOf key (record ++ [(call, (step machine call).2)]) =
      mutationsOf key record ++ mutationsOf key [(call, (step machine call).2)] :=
    List.filterMap_append
  obtain ⟨⟨current, stored, count⟩, expected⟩ := counted
  generalize mutationsOf key [(call, (step machine call).2)] = added at stepped grown
  cases stepped with
  | advanced request before next found asked moved larger =>
    obtain rfl : before = current := Option.some.inj (found.symm.trans stored)
    refine ⟨⟨next, moved, ?_⟩, ?_⟩
    · rw [grown, larger, count, List.length_append]
      rfl
    · rw [grown, List.map_append, expected, List.length_append, List.length_singleton,
        List.range'_concat, List.map_append, List.map_singleton, List.map_singleton, asked,
        Option.map_some, count, Nat.one_mul]
  | kept same =>
    rw [List.append_nil] at grown
    exact ⟨⟨current, by rw [same, stored], by rw [grown, count]⟩, by rw [grown, expected]⟩

/-- A registration starts the count at the registered version. Whatever was stored for the key
before is replaced. -/
theorem versions_count_registered (machine : InMemoryExecutionState × ε)
    (resource : ResourceRef) (key : ResourceKey) (version : UInt64)
    (named : ResourceKey.tryFrom resource = .ok key) :
    VersionsCount key version ([] : List (Call ε τ × Answer τ))
      (step machine (.register resource version : Call ε τ)).1.1 := by
  refine ⟨⟨version, ?_, rfl⟩, rfl⟩
  simp only [step, registerResource, named]
  exact (HashMap.lookup_insert_eq _ _ _ _).trans (if_pos rfl)

/-- No update is lost. After a resource is registered and until it is registered again, its
stored version is the registered one plus the number of its applied mutations, these expected
distinct versions, and every call either applies one mutation that expected the version
stored just before it and stores the next one, or leaves the version alone.

Proof: one call either advances the version by one from the expected one or leaves it alone. So
the run keeps a count, and the expected versions are the numbers counted through. -/
theorem no_lost_update (environment : ε) (before segment : List (Call ε τ))
    (resource : ResourceRef) (key : ResourceKey) (version : UInt64)
    (named : ResourceKey.tryFrom resource = .ok key)
    (preserving : ∀ call ∈ segment, call.Preserving)
    (unregistered : ∀ call ∈ segment, ¬ call.Registers key) :
    let registered := before ++ [.register resource version]
    (∃ current,
      (historyAfter environment registered segment).1.1.resourceVersions.lookup key =
          some current ∧
        current.toNat = version.toNat +
          (mutationsOf key (historyAfter environment registered segment).2).length) ∧
    ((mutationsOf key (historyAfter environment registered segment).2).map
      MutationRequest.expectedVersion).Nodup ∧
    ∀ earlier call later, segment = earlier ++ call :: later →
      let reached := (historyAfter environment registered earlier).1
      (historyAfter environment registered (earlier ++ [call])).1 = (step reached call).1 ∧
        VersionStep key reached.1 (step reached call).1.1
          (mutationsOf key [(call, (step reached call).2)]) := by
  intro registered
  have counted : VersionsCount key version (historyAfter environment registered segment).2
      (historyAfter environment registered segment).1.1 := by
    refine Runs.run_invariant step _ (fun call => call.Preserving ∧ ¬ call.Registers key)
      (fun record machine => VersionsCount key version record machine.1) ?_ ?_ segment
      fun call member => ⟨preserving call member, unregistered call member⟩
    · rw [history_snoc]
      exact versions_count_registered _ resource key version named
    · intro record machine call admissible counted
      exact counted.next (step_version machine call admissible.1 key admissible.2)
  refine ⟨counted.stored, ?_, ?_⟩
  · have distinct : (((mutationsOf key (historyAfter environment registered segment).2).map
        MutationRequest.expectedVersion).map (Option.map UInt64.toNat)).Nodup := by
      rw [List.map_map]
      refine Eq.mpr (congrArg List.Nodup counted.expected) ?_
      exact List.Nodup.map (Option.some_injective Nat) List.nodup_range'
    exact distinct.of_map
  · rintro earlier call later rfl
    refine ⟨Runs.run_snoc_state step _ earlier call, ?_⟩
    exact step_version _ call (preserving call (by simp)) key (unregistered call (by simp))

/-- A recognition of the item r that expects its version 5. -/
def smallRecognitionOfFive : MutationRequest :=
  Results.valueOf (do
    let target ← AuthorityId.new Text.asciiCaseMapping "did:t"
    let issuer ← AuthorityId.new Text.asciiCaseMapping "did:i"
    let resource ← ResourceContext.new "item"
    let item ← ResourceRef.newTyped issuer "item" "r"
    let request ← EvaluationRequest.new (.capability .recognize)
      (.existing (item.withExpectedVersion 5)) target target resource smallInstant
    let intentId ← IntentId.new "a"
    MutationRequest.tryFrom (request.withIntentId intentId)) (by decide +kernel)

/-- The key of the item r. -/
def smallItemKey : ResourceKey :=
  Results.valueOf (ResourceKey.tryFrom smallItem) (by decide +kernel)

/-- After the item is registered at version 5, one applied recognition stores version 6. The
segment has no other registration, which is all the theorem asks of its calls. -/
theorem small_item_advanced :
    ∃ current, (historyAfter () [.register smallItem 5]
        (smallCalls [smallRecognitionOfFive])).1.1.resourceVersions.lookup smallItemKey =
          some current ∧ current.toNat = 6 := by
  obtain ⟨⟨current, stored, count⟩, -, -⟩ := no_lost_update () []
    (smallCalls [smallRecognitionOfFive]) smallItem smallItemKey 5 rfl
    (small_calls_preserving _) (by
      intro call member
      obtain ⟨request, -, rfl⟩ := List.mem_map.mp member
      exact id)
  have once : (mutationsOf smallItemKey (historyAfter () [.register smallItem 5]
      (smallCalls [smallRecognitionOfFive])).2).length = 1 := by
    decide +kernel
  refine ⟨current, stored, ?_⟩
  rw [count]
  exact congrArg (5 + ·) once

end TrustGrant
