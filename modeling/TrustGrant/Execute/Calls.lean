import TrustGrant.Execute.Exits
import TrustGrant.Library.Runs

/-!
# Runs of the executor

A run is a list of calls, registrations and executions in any order, made one after the
other on an executor that starts empty. Its record keeps every call beside its answer.

The closures of a run are restricted by what they do to the transaction they are handed:
one that preserves it changes nothing in it, and one that keeps the processed intents may
change everything else. The first is asked of a closure on every transaction; the second only
of the transaction that it is handed in the run, and only when the call is applied.
-/

namespace TrustGrant

open Rust Library InMemoryAtomicInventoryExecutor

/-- One call on the executor. The type of the values that mutations return is the same
throughout a run; calls of several types share a sum of them. -/
inductive Call (ε τ : Type*) where
  | register (resource : ResourceRef) (version : UInt64)
  | execute (grant : VerifiedTrustGrant) (request : MutationRequest) (apply : Mutation ε τ)

/-- What a call returns. -/
inductive Answer (τ : Type*) where
  | registered (result : Except InMemoryExecutionError Unit)
  | executed (result : Except InMemoryExecutionError (AtomicExecutionResult τ))

variable {ε τ : Type*}

/-- Make one call on an executor in an environment. A call is a registration or an execution;
both leave a state and an answer. -/
def step (machine : InMemoryExecutionState × ε) :
    Call ε τ → (InMemoryExecutionState × ε) × Answer τ
  | .register resource version =>
    let (result, state) := registerResource machine.1 resource version
    ((state, machine.2), .registered result)
  | .execute grant request apply =>
    let (result, state, environment) :=
      authorizeAndExecute machine.1 grant request apply machine.2
    ((state, environment), .executed result)

/-- The executor, the environment and the record after a list of calls on a new executor. -/
def history (environment : ε) (calls : List (Call ε τ)) :
    (InMemoryExecutionState × ε) × List (Call ε τ × Answer τ) :=
  Runs.run step (.empty, environment) calls

/-- One more call is made where the earlier ones led. -/
theorem history_snoc (environment : ε) (calls : List (Call ε τ)) (call : Call ε τ) :
    (history environment (calls ++ [call])).1 =
      (step (history environment calls).1 call).1 :=
  Runs.run_snoc_state step (.empty, environment) calls call

/-- The closure of the call leaves the transaction it is handed unchanged. It may still fail,
return any value and change its environment. -/
def Call.Preserving : Call ε τ → Prop
  | .register _ _ => True
  | .execute _ _ apply => ∀ transaction authorization environment,
      (apply transaction authorization environment).2.1 = transaction

/-- Calls under one grant identifier use one document. Otherwise two documents could set two
limits for one counter. -/
def Consistent (calls : List (Call ε τ)) : Prop :=
  ∀ first firstRequest firstApply second secondRequest secondApply,
    .execute first firstRequest firstApply ∈ calls →
      .execute second secondRequest secondApply ∈ calls →
        first.id = second.id → first.document = second.document

/-- The exit of an executed call, read from the step. -/
theorem step_exit (machine : InMemoryExecutionState × ε) (grant : VerifiedTrustGrant)
    (request : MutationRequest) (apply : Mutation ε τ) :
    ∃ result after left, step machine (.execute grant request apply) =
      ((after, left), .executed result) ∧
        Exit machine.1 grant request apply machine.2 result after left :=
  ⟨_, _, _, rfl, exit machine.1 grant request apply machine.2⟩

/-- A registration sets a version and touches nothing else. -/
theorem step_register (machine : InMemoryExecutionState × ε) (resource : ResourceRef)
    (version : UInt64) :
    ∃ versions result, step machine (.register resource version : Call ε τ) =
      (({ machine.1 with resourceVersions := versions }, machine.2), .registered result) := by
  simp only [step, registerResource]
  cases ResourceKey.tryFrom resource with
  | error problem => exact ⟨machine.1.resourceVersions, .error problem, rfl⟩
  | ok key => exact ⟨machine.1.resourceVersions.insert key version, .ok (), rfl⟩

/-- The grant and the request of a call that was answered as an applied mint. -/
def appliedMint : Call ε τ × Answer τ → Option (VerifiedTrustGrant × MutationRequest)
  | (.execute grant request _, .executed (.ok (.applied _ _))) =>
    if request.isMint then some (grant, request) else none
  | _ => none

/-- The authorization of a call that was applied under an intent. -/
def appliedUnder (intentId : IntentId) : Call ε τ × Answer τ → Option MutationAuthorization
  | (.execute _ request _, .executed (.ok (.applied authorization _))) =>
    if request.intentId = intentId then some authorization else none
  | _ => none

/-- The authorization that an answer carries into the audit log. Duplicates, conflicts and
failures carry none. -/
def recorded : Answer τ → Option MutationAuthorization
  | .executed (.ok (.applied authorization _)) => some authorization
  | .executed (.ok (.denied authorization)) => some authorization
  | .executed (.ok (.stale authorization _)) => some authorization
  | _ => none

/-- The kinds of results of an execution that did not fail. -/
inductive ResultKind where
  | applied
  | denied
  | duplicate
  | stale
  | intentConflict
deriving DecidableEq

/-- The kind of result an answer carries. -/
def Answer.kind : Answer τ → Option ResultKind
  | .executed (.ok (.applied _ _)) => some .applied
  | .executed (.ok (.denied _)) => some .denied
  | .executed (.ok (.duplicate _)) => some .duplicate
  | .executed (.ok (.stale _ _)) => some .stale
  | .executed (.ok (.intentConflict _)) => some .intentConflict
  | _ => none

/-- An answer of the applied kind carries an authorization and a value. -/
theorem Answer.applied_of_kind (answer : Answer τ) (kind : answer.kind = some .applied) :
    ∃ authorization value, answer = .executed (.ok (.applied authorization value)) := by
  unfold Answer.kind at kind
  split at kind
  · exact ⟨_, _, rfl⟩
  all_goals cases kind

/-- The transaction that the closure of a call leaves behind. For a call that does not reach its
closure it is what the closure would have left. -/
def leftBehind (state : InMemoryExecutionState) (grant : VerifiedTrustGrant)
    (request : MutationRequest) (apply : Mutation ε τ) (environment : ε) :
    InMemoryExecutionTransaction :=
  (apply ⟨state.recordAudit (authorize state grant request)⟩ (authorize state grant request)
    environment).2.1

/-- If the call is applied, its closure left the processed intents as they were. -/
def KeepsProcessed (machine : InMemoryExecutionState × ε) : Call ε τ → Prop
  | .register _ _ => True
  | .execute grant request apply =>
    (step machine (.execute grant request apply)).2.kind = some .applied →
      (leftBehind machine.1 grant request apply machine.2).state.processed = machine.1.processed

/-- Every applied call of the run kept the processed intents. -/
def AllKeepProcessed (environment : ε) (calls : List (Call ε τ)) : Prop :=
  ∀ before call after, calls = before ++ call :: after →
    KeepsProcessed (history environment before).1 call

/-- A closure that changes nothing keeps the processed intents wherever it is called. It leaves
the transaction that it is handed. -/
theorem keeps_processed_of_preserving (machine : InMemoryExecutionState × ε) (call : Call ε τ)
    (preserving : call.Preserving) : KeepsProcessed machine call := by
  cases call with
  | register resource version => trivial
  | execute grant request apply =>
    intro _
    have handed := preserving ⟨machine.1.recordAudit (authorize machine.1 grant request)⟩
      (authorize machine.1 grant request) machine.2
    rw [leftBehind, handed]
    rfl

/-- A run that kept the processed intents does so still when calls that always do are added.
Every beginning of the longer run ends in one of the two parts. -/
theorem AllKeepProcessed.append (environment : ε) (earlier later : List (Call ε τ))
    (keeps : AllKeepProcessed environment earlier)
    (always : ∀ call ∈ later, ∀ machine, KeepsProcessed machine call) :
    AllKeepProcessed environment (earlier ++ later) := by
  intro before call after split
  rcases List.append_eq_append_iff.mp split with ⟨middle, rfl, isLater⟩ | ⟨middle, rfl, isRest⟩
  · exact always call (by simp [isLater]) _
  · cases middle with
    | nil => exact always call (by simp [show later = call :: after from isRest.symm]) _
    | cons first rest =>
      obtain ⟨rfl, -⟩ := List.cons.inj isRest
      exact keeps before call rest rfl

/-- A run of closures that change nothing keeps the processed intents. -/
theorem all_keep_processed_of_preserving (environment : ε) (calls : List (Call ε τ))
    (preserving : ∀ call ∈ calls, call.Preserving) : AllKeepProcessed environment calls := by
  rintro before call after rfl
  exact keeps_processed_of_preserving _ call (preserving call (by simp))

/-! ## A small executor for closed instances -/

/-- A grant under which every principal may mint one item. -/
def smallGrant : VerifiedTrustGrant :=
  .new (.ofValidated (Results.valueOf
    (ValidatedTrustGrantDocument.tryFrom Text.asciiCaseMapping
      (smallDocument ⟨true, none, none⟩ (some 1) none)) (by decide +kernel))) smallMetadata

/-- A mint by a principal with the given selectors. -/
def smallMint (selectors : List (String × String)) (quantity : UInt64) (intent : String) :
    Except TrustGrantError MutationRequest := do
  let target ← AuthorityId.new Text.asciiCaseMapping "did:t"
  let issuer ← AuthorityId.new Text.asciiCaseMapping "did:i"
  let template ← TemplateRef.newTyped issuer "sword"
  let resource ← ResourceContext.new "item"
  let request ← EvaluationRequest.new (.capability .mint) (.mint template) target target resource
    smallInstant
  let request ← selectors.foldlM
    (fun request selector => request.insertAudiencePrincipalSelector selector.1 selector.2) request
  let mintContext ← (MintContext.new 0 0).withQuantity quantity
  let intentId ← IntentId.new intent
  MutationRequest.tryFrom
    ((request.verifySelectors.withMintContext mintContext).withIntentId intentId)

/-- A mint of one item by the principal with the actor p. -/
def smallMintByActor : MutationRequest :=
  Results.valueOf (smallMint [("actor", "p")] 1 "a") (by decide +kernel)

/-- A mint of one item by the principal with the actor q. -/
def smallMintByOther : MutationRequest :=
  Results.valueOf (smallMint [("actor", "q")] 1 "b") (by decide +kernel)

/-- A second item for the principal with the actor p, one more than its limit. -/
def smallMintBeyond : MutationRequest :=
  Results.valueOf (smallMint [("actor", "p")] 1 "c") (by decide +kernel)

/-- The item r under its origin. -/
def smallItem : ResourceRef :=
  Results.valueOf (do
    let issuer ← AuthorityId.new Text.asciiCaseMapping "did:i"
    ResourceRef.newTyped issuer "item" "r") (by decide +kernel)

/-- A closure that changes nothing. -/
def unchanged : Mutation Unit Unit := fun transaction _ environment =>
  (.ok (), transaction, environment)

/-- Calls with one grant whose closures change nothing. -/
def smallCalls (requests : List MutationRequest) : List (Call Unit Unit) :=
  requests.map fun request => .execute smallGrant request unchanged

/-- Two principals mint one item each, and the first asks for another one. Both mints are applied,
and the third is denied, as the limit per user is one. -/
def smallRun : List (Call Unit Unit) :=
  smallCalls [smallMintByActor, smallMintByOther, smallMintBeyond]

/-- The record of one call that is answered as applied. Which authorization
its answer carries is left open, as it is a long term. -/
theorem small_call_record (request : MutationRequest)
    (kind : (step (.empty, ()) (.execute smallGrant request unchanged)).2.kind = some .applied) :
    ∃ authorization value, (history () (smallCalls [request])).2 =
      [(.execute smallGrant request unchanged,
        .executed (.ok (.applied authorization value)))] := by
  obtain ⟨authorization, value, answered⟩ := Answer.applied_of_kind _ kind
  refine ⟨authorization, value, ?_⟩
  have record : (history () (smallCalls [request])).2 =
      [(.execute smallGrant request unchanged,
        (step (.empty, ()) (.execute smallGrant request unchanged)).2)] := rfl
  rw [record, answered]

/-- The closures of the small calls leave the transaction as it is. -/
theorem small_calls_preserving (requests : List MutationRequest) :
    ∀ call ∈ smallCalls requests, call.Preserving := by
  intro call member
  obtain ⟨request, -, rfl⟩ := List.mem_map.mp member
  exact fun _ _ _ => rfl

/-- The small calls are all about one grant. -/
theorem small_calls_consistent (requests : List MutationRequest) :
    Consistent (smallCalls requests) := by
  have oneGrant : ∀ grant request apply, .execute grant request apply ∈ smallCalls requests →
      grant = smallGrant := by
    intro grant request apply member
    obtain ⟨asked, -, called⟩ := List.mem_map.mp member
    exact (Call.execute.inj called).1.symm
  intro first firstRequest firstApply second secondRequest secondApply firstCalled secondCalled _
  rw [oneGrant _ _ _ firstCalled, oneGrant _ _ _ secondCalled]

end TrustGrant
