import TrustGrant.Execute.Atomicity
import TrustGrant.Execute.Envelope
import TrustGrant.Execute.Versions
import TrustGrant.Library.Isolation
import TrustGrant.Library.Related
import Mathlib

/-!
# Isolation of callers

The executor is shared: calls of any number of callers, under any number of grants, meet
in one state. Its state is read as cells, one for each intent, resource version, total
counter and counter of a principal, and a call uses few of them. Callers whose calls use
different cells do not disturb each other: each is answered as if it were alone, however
the calls are interleaved. The audit log is shared by all callers and is no cell.

The library's rule for parties that share a machine asks for two lemmas about one step: a
call within the footprint is answered alike, and a call outside is not noticed. Both go
through the exits of a call; the run and the interleavings are the library's business.
-/

namespace TrustGrant

open Rust Library Library.Related InMemoryAtomicInventoryExecutor

variable {ε τ ω : Type*}

/-- The cells of the state of the executor. Together they are all of it but the audit log. -/
inductive Cell where
  | intent (intentId : IntentId)
  | version (key : ResourceKey)
  | total (key : MintTotalKey)
  | principal (key : MintPrincipalKey)

/-- What a cell holds. -/
inductive Content where
  | processed (authorization : Option MutationAuthorization)
  | version (current : Option UInt64)
  | count (minted : Nat)

/-- The content of a cell. -/
def InMemoryExecutionState.content (state : InMemoryExecutionState) : Cell → Content
  | .intent intentId => .processed (state.processed.lookup intentId)
  | .version key => .version (state.resourceVersions.lookup key)
  | .total key => .count (state.totalCount key)
  | .principal key => .count (state.principalCount key)

/-- Two states hold the same in every cell of a footprint. -/
def AgreeOn (footprint : Set Cell) (first second : InMemoryExecutionState) : Prop :=
  ∀ cell ∈ footprint, first.content cell = second.content cell

namespace AgreeOn

variable {footprint : Set Cell} {first second third : InMemoryExecutionState}

/-- A state agrees with itself. -/
theorem refl (state : InMemoryExecutionState) : AgreeOn footprint state state :=
  fun _ _ => rfl

/-- Agreement goes both ways. -/
theorem symm (agree : AgreeOn footprint first second) : AgreeOn footprint second first :=
  fun cell inside => (agree cell inside).symm

/-- Agreement is transitive. -/
theorem trans (agree : AgreeOn footprint first second)
    (agreeToo : AgreeOn footprint second third) : AgreeOn footprint first third :=
  fun cell inside => (agree cell inside).trans (agreeToo cell inside)

/-- States that agree on an intent know the same request under it. -/
theorem processed (agree : AgreeOn footprint first second) {intentId : IntentId}
    (inside : Cell.intent intentId ∈ footprint) :
    first.processed.lookup intentId = second.processed.lookup intentId :=
  Content.processed.inj (agree _ inside)

/-- States that agree on a resource know the same version of it. -/
theorem version (agree : AgreeOn footprint first second) {key : ResourceKey}
    (inside : Cell.version key ∈ footprint) :
    first.resourceVersions.lookup key = second.resourceVersions.lookup key :=
  Content.version.inj (agree _ inside)

/-- States that agree on a counter have the same total, an absent one being zero. -/
theorem total (agree : AgreeOn footprint first second) {key : MintTotalKey}
    (inside : Cell.total key ∈ footprint) :
    (first.totalMints.lookup key).getD 0 = (second.totalMints.lookup key).getD 0 :=
  UInt64.toNat_inj.mp (Content.count.inj (agree _ inside))

/-- The same for the counter of a principal. -/
theorem principal (agree : AgreeOn footprint first second) {key : MintPrincipalKey}
    (inside : Cell.principal key ∈ footprint) :
    (first.mintsForPrincipal.lookup key).getD 0 = (second.mintsForPrincipal.lookup key).getD 0 :=
  UInt64.toNat_inj.mp (Content.count.inj (agree _ inside))

end AgreeOn

/-- The cells that a call reads or writes. An execution uses its intent, the version it is
checked against, and for a mint its two counters. -/
inductive Call.Uses : Call ε τ → Cell → Prop
  | registered (resource : ResourceRef) (initial : UInt64) (key : ResourceKey)
      (named : ResourceKey.tryFrom resource = .ok key) :
      Call.Uses (.register resource initial) (.version key)
  | intent (grant : VerifiedTrustGrant) (request : MutationRequest) (apply : Mutation ε τ) :
      Call.Uses (.execute grant request apply) (.intent request.intentId)
  | version (grant : VerifiedTrustGrant) (request : MutationRequest) (apply : Mutation ε τ)
      (key : ResourceKey) (acted : existingKey request = .ok (some key)) :
      Call.Uses (.execute grant request apply) (.version key)
  | total (grant : VerifiedTrustGrant) (request : MutationRequest) (apply : Mutation ε τ)
      (mint : request.isMint = true) :
      Call.Uses (.execute grant request apply) (.total (mintKeys grant request).1)
  | principal (grant : VerifiedTrustGrant) (request : MutationRequest) (apply : Mutation ε τ)
      (mint : request.isMint = true) :
      Call.Uses (.execute grant request apply) (.principal (mintKeys grant request).2)

/-- The call uses cells of the footprint only. -/
def Call.Within (footprint : Set Cell) (call : Call ε τ) : Prop :=
  ∀ cell, call.Uses cell → cell ∈ footprint

/-- The call uses no cell of the footprint. -/
def Call.Outside (footprint : Set Cell) (call : Call ε τ) : Prop :=
  ∀ cell, call.Uses cell → cell ∉ footprint

/-- Executors and environments that look alike from a footprint and a view. The view is what a
caller sees of the environment. -/
structure LookAlike (footprint : Set Cell) (view : ε → ω)
    (first second : InMemoryExecutionState × ε) : Prop where
  cells : AgreeOn footprint first.1 second.1
  views : view first.2 = view second.2

/-- Looking alike on a footprint is an equivalence, as the rules of isolation ask. -/
theorem look_alike_equivalence (footprint : Set Cell) (view : ε → ω) :
    Equivalence (LookAlike footprint view) where
  refl machine := ⟨.refl machine.1, rfl⟩
  symm alike := ⟨alike.cells.symm, alike.views.symm⟩
  trans alike alikeToo := ⟨alike.cells.trans alikeToo.cells, alike.views.trans alikeToo.views⟩

/-- The closure of the call sees the transaction through the footprint and the environment
through the view: where they look alike it answers alike and leaves them looking alike. -/
def Call.Local (footprint : Set Cell) (view : ε → ω) : Call ε τ → Prop
  | .register _ _ => True
  | .execute _ _ apply => ∀ (first second : InMemoryExecutionTransaction) authorization
      (environment other : ε),
      LookAlike footprint view (first.state, environment) (second.state, other) →
        (apply first authorization environment).1 = (apply second authorization other).1 ∧
          LookAlike footprint view
            ((apply first authorization environment).2.1.state,
              (apply first authorization environment).2.2)
            ((apply second authorization other).2.1.state,
              (apply second authorization other).2.2)

/-- The closure of the call leaves the cells of the footprint and the view of the
environment as they were. -/
def Call.Hidden (footprint : Set Cell) (view : ε → ω) : Call ε τ → Prop
  | .register _ _ => True
  | .execute _ _ apply => ∀ (transaction : InMemoryExecutionTransaction) authorization
      (environment : ε),
      LookAlike footprint view
        ((apply transaction authorization environment).2.1.state,
          (apply transaction authorization environment).2.2)
        (transaction.state, environment)

/-- Audit records are in no cell. -/
theorem record_audit_agrees (footprint : Set Cell) (state : InMemoryExecutionState)
    (authorization : MutationAuthorization) :
    AgreeOn footprint (state.recordAudit authorization) state :=
  fun cell _ => by cases cell <;> rfl

section Own

variable {footprint : Set Cell} {view : ε → ω} {first second : InMemoryExecutionState}

/-- A call is authorized alike in states that agree on its cells: only the counters of a
mint are read. -/
theorem authorize_agrees (agree : AgreeOn footprint first second) (grant : VerifiedTrustGrant)
    (request : MutationRequest) (apply : Mutation ε τ)
    (within : (Call.execute grant request apply).Within footprint) :
    evaluationRequest first grant request = evaluationRequest second grant request ∧
      authorize first grant request = authorize second grant request := by
  have sameRequest :
      evaluationRequest first grant request = evaluationRequest second grant request := by
    unfold evaluationRequest
    by_cases mint : request.isMint = true
    · rw [if_pos mint, if_pos mint]
      have sameContext :
          runtimeMintContext first grant request = runtimeMintContext second grant request := by
        simp only [runtimeMintContext, agree.total (within _ (.total grant request apply mint)),
          agree.principal (within _ (.principal grant request apply mint))]
      rw [sameContext]
    · rw [if_neg mint, if_neg mint]
  exact ⟨sameRequest, by rw [authorize, authorize, sameRequest]⟩

/-- The version check reads the version of the resource acted upon. Without such a resource it
reads nothing. -/
theorem stale_version_agrees (agree : AgreeOn footprint first second)
    (request : MutationRequest) (key : Option ResourceKey)
    (inside : ∀ acted ∈ key, Cell.version acted ∈ footprint) :
    staleVersion first request key = staleVersion second request key := by
  cases key with
  | none => rfl
  | some acted =>
    simp only [staleVersion, agree.version (inside acted rfl)]

/-- A mint advances counters that agree to counters that agree. The keys of the mint are in the
footprint, so the sums that are checked are the same. -/
theorem advance_mints_alike (agree : AgreeOn footprint first second)
    (keys : MintTotalKey × MintPrincipalKey) (quantity : UInt64)
    (totalInside : Cell.total keys.1 ∈ footprint)
    (principalInside : Cell.principal keys.2 ∈ footprint) :
    EndAlike (AgreeOn footprint) (advanceMints first keys quantity)
      (advanceMints second keys quantity) := by
  unfold advanceMints
  refine .bind_of_eq (by rw [agree.total totalInside]) fun total => ?_
  refine .bind_of_eq (by rw [agree.principal principalInside]) fun perPrincipal => ?_
  refine .pure ?_
  intro cell inside
  cases cell with
  | intent intentId => exact agree _ inside
  | version key => exact agree _ inside
  | total key =>
    have before := agree.total inside
    simp only [InMemoryExecutionState.content, InMemoryExecutionState.totalCount,
      HashMap.lookup_insert_eq]
    by_cases advanced : key = keys.1
    · simp [advanced]
    · simp [advanced, before]
  | principal key =>
    have before := agree.principal inside
    simp only [InMemoryExecutionState.content, InMemoryExecutionState.principalCount,
      HashMap.lookup_insert_eq]
    by_cases advanced : key = keys.2
    · simp [advanced]
    · simp [advanced, before]

/-- A change of a resource advances versions that agree to versions that agree. The key is in the
footprint, so both stored versions are the same. -/
theorem advance_version_alike (agree : AgreeOn footprint first second) (acted : ResourceKey)
    (inside : Cell.version acted ∈ footprint) :
    EndAlike (AgreeOn footprint) (advanceVersion first acted) (advanceVersion second acted) := by
  unfold advanceVersion
  refine .bind_of_eq (by rw [agree.version inside]) fun currentVersion => ?_
  refine .bind_of_eq rfl fun version => ?_
  refine .pure ?_
  intro cell member
  cases cell with
  | intent intentId => exact agree _ member
  | total key => exact agree _ member
  | principal key => exact agree _ member
  | version key =>
    have before := agree.version member
    simp only [InMemoryExecutionState.content, HashMap.lookup_insert_eq]
    by_cases advanced : key = acted
    · simp [advanced]
    · simp [advanced, before]

/-- Transactions that agree are committed to states that agree, or fail to commit with
one problem. -/
theorem commit_alike (agree : AgreeOn footprint first second) (grant : VerifiedTrustGrant)
    (request : MutationRequest) (apply : Mutation ε τ) (key : Option ResourceKey)
    (quantity : UInt64) (authorization : MutationAuthorization)
    (within : (Call.execute grant request apply).Within footprint)
    (keyed : existingKey request = .ok key) :
    EndAlike (AgreeOn footprint) (commit first grant request key quantity authorization)
      (commit second grant request key quantity authorization) := by
  have advanced : EndAlike (AgreeOn footprint) (advanceCounters first grant request key quantity)
      (advanceCounters second grant request key quantity) := by
    unfold advanceCounters
    by_cases mint : request.isMint = true
    · rw [if_pos mint, if_pos mint]
      exact advance_mints_alike agree _ quantity (within _ (.total grant request apply mint))
        (within _ (.principal grant request apply mint))
    · rw [if_neg mint, if_neg mint]
      cases key with
      | none => exact .returned first second agree
      | some acted =>
        exact advance_version_alike agree acted
          (within _ (.version grant request apply acted keyed))
  unfold commit
  refine .bind advanced ?_
  intro after other agreeAfter
  refine .pure ?_
  intro cell inside
  cases cell with
  | version key => exact agreeAfter _ inside
  | total key => exact agreeAfter _ inside
  | principal key => exact agreeAfter _ inside
  | intent intentId =>
    have before := agreeAfter.processed inside
    simp only [InMemoryExecutionState.content, HashMap.lookup_insert_eq]
    by_cases recorded : intentId = request.intentId
    · simp [recorded]
    · simp [recorded, before]

/-- Results that answer alike and leave executors and environments that look alike. -/
def AnsweredAlike (footprint : Set Cell) (view : ε → ω)
    (first second : Except InMemoryExecutionError (AtomicExecutionResult τ) ×
      InMemoryExecutionState × ε) : Prop :=
  first.1 = second.1 ∧ LookAlike footprint view first.2 second.2

/-- A mutation of the caller's own is applied or rolled back alike. The closure is handed
transactions that agree, and answers alike by assumption; the commit keeps the agreement. -/
theorem apply_mutation_alike (agree : AgreeOn footprint first second)
    (grant : VerifiedTrustGrant) (request : MutationRequest) (key : Option ResourceKey)
    (apply : Mutation ε τ) (environment other : ε)
    (within : (Call.execute grant request apply).Within footprint)
    (seen : (Call.execute grant request apply).Local footprint view)
    (views : view environment = view other) (keyed : existingKey request = .ok key) :
    AnsweredAlike footprint view (applyMutation first grant request key apply environment)
      (applyMutation second grant request key apply other) := by
  obtain ⟨-, sameAuthorization⟩ := authorize_agrees agree grant request apply within
  have handed : AgreeOn footprint (first.recordAudit (authorize first grant request))
      (second.recordAudit (authorize first grant request)) :=
    (record_audit_agrees footprint first _).trans
      (agree.trans (record_audit_agrees footprint second _).symm)
  have ranAlike := seen ⟨first.recordAudit (authorize first grant request)⟩
    ⟨second.recordAudit (authorize first grant request)⟩ (authorize first grant request)
    environment other ⟨handed, views⟩
  simp only [applyMutation, evaluated_quantity, ← sameAuthorization]
  generalize apply ⟨first.recordAudit (authorize first grant request)⟩
    (authorize first grant request) environment = ran at ranAlike ⊢
  generalize apply ⟨second.recordAudit (authorize first grant request)⟩
    (authorize first grant request) other = ranToo at ranAlike ⊢
  obtain ⟨answered, transaction, left⟩ := ran
  obtain ⟨answeredToo, transactionToo, leftToo⟩ := ranToo
  simp only at ranAlike
  obtain ⟨rfl, leftAlike⟩ := ranAlike
  cases answered with
  | error problem => exact ⟨rfl, agree, leftAlike.views⟩
  | ok value =>
    have committed := commit_alike leftAlike.cells grant request apply key
      request.requestedQuantity (authorize first grant request) within keyed
    simp only
    revert committed
    generalize commit transaction.state grant request key request.requestedQuantity
      (authorize first grant request) = after
    generalize commit transactionToo.state grant request key request.requestedQuantity
      (authorize first grant request) = afterToo
    intro committed
    cases committed with
    | failed problem => exact ⟨rfl, agree, leftAlike.views⟩
    | returned after afterToo agreeAfter => exact ⟨rfl, agreeAfter, leftAlike.views⟩

/-- A call of the caller's own is answered alike on executors that look alike. The cases are
the exits of the call: each is decided by cells of the footprint. -/
theorem execute_alike (agree : AgreeOn footprint first second) (grant : VerifiedTrustGrant)
    (request : MutationRequest) (apply : Mutation ε τ) (environment other : ε)
    (within : (Call.execute grant request apply).Within footprint)
    (seen : (Call.execute grant request apply).Local footprint view)
    (views : view environment = view other) :
    AnsweredAlike footprint view (authorizeAndExecute first grant request apply environment)
      (authorizeAndExecute second grant request apply other) := by
  obtain ⟨-, sameAuthorization⟩ := authorize_agrees agree grant request apply within
  have recordedAlike := fun authorization : MutationAuthorization =>
    (record_audit_agrees footprint first authorization).trans
      (agree.trans (record_audit_agrees footprint second authorization).symm)
  unfold authorizeAndExecute
  rw [← agree.processed (within _ (.intent grant request apply)), ← sameAuthorization]
  cases first.processed.lookup request.intentId with
  | some previous =>
    simp only
    by_cases same : previous.matchesRequest grant.id request = true
    · rw [if_pos same, if_pos same]
      exact ⟨rfl, agree, views⟩
    · rw [if_neg same, if_neg same]
      exact ⟨rfl, agree, views⟩
  | none =>
    simp only
    by_cases refused : (authorize first grant request).outcome.decision.isAllowed = false
    · rw [if_pos refused, if_pos refused]
      exact ⟨rfl, recordedAlike _, views⟩
    · rw [if_neg refused, if_neg refused]
      cases keyed : existingKey request with
      | error problem => exact ⟨rfl, agree, views⟩
      | ok key =>
        have inside : ∀ acted ∈ key, Cell.version acted ∈ footprint := by
          rintro acted rfl
          exact within _ (.version grant request apply acted keyed)
        simp only
        rw [← stale_version_agrees agree request key inside]
        cases staleVersion first request key with
        | error problem => exact ⟨rfl, agree, views⟩
        | ok current =>
          cases current with
          | some currentVersion => exact ⟨rfl, recordedAlike _, views⟩
          | none =>
            exact apply_mutation_alike agree grant request key apply environment other within
              seen views keyed

/-- The step of a call of the caller's own. It is one of the two premises of the rule for
isolation: the answer is the same, and the states agree afterwards. -/
theorem step_answered (call : Call ε τ) (within : call.Within footprint)
    (seen : call.Local footprint view) :
    Isolation.Answered step (LookAlike footprint view) call := by
  rintro ⟨first, environment⟩ ⟨second, other⟩ ⟨agree, views⟩
  cases call with
  | register resource initial =>
    simp only [step, registerResource]
    cases named : ResourceKey.tryFrom resource with
    | error problem => exact ⟨rfl, agree, views⟩
    | ok registered =>
      refine ⟨rfl, ?_, views⟩
      intro cell member
      cases cell with
      | intent intentId => exact agree _ member
      | total key => exact agree _ member
      | principal key => exact agree _ member
      | version key =>
        have before := agree.version member
        simp only [InMemoryExecutionState.content, HashMap.lookup_insert_eq]
        by_cases replaced : key = registered
        · simp [replaced]
        · simp [replaced, before]
  | execute grant request apply =>
    obtain ⟨sameAnswer, alike⟩ :=
      execute_alike agree grant request apply environment other within seen views
    exact ⟨congrArg Answer.executed sameAnswer, alike⟩

end Own

section Others

variable {footprint : Set Cell} {view : ε → ω}

/-- What is committed for another caller is in no cell of the footprint. A cell of the footprint
is neither the intent nor a counter nor a version that the call advances. -/
theorem committed_agrees (grant : VerifiedTrustGrant) (request : MutationRequest)
    (apply : Mutation ε τ) (authorization : MutationAuthorization)
    (left after : InMemoryExecutionState)
    (outside : (Call.execute grant request apply).Outside footprint)
    (commits : Committed grant request authorization left after) :
    AgreeOn footprint after left := by
  intro cell inside
  cases cell with
  | intent intentId =>
    have other : intentId ≠ request.intentId := by
      rintro rfl
      exact outside _ (.intent grant request apply) inside
    simp [InMemoryExecutionState.content, commits.processed, AList.lookup_insert_ne other]
  | version key =>
    have notAdvanced : ¬ AdvancesVersion request key := by
      rintro ⟨-, acted⟩
      exact outside _ (.version grant request apply key acted) inside
    exact congrArg Content.version (commits.versions key notAdvanced)
  | total key =>
    have nothing : mintedTotal grant request key = 0 := by
      refine if_neg ?_
      rintro ⟨mint, rfl⟩
      exact outside _ (.total grant request apply mint) inside
    simp [InMemoryExecutionState.content, commits.totals, nothing]
  | principal key =>
    have nothing : mintedForPrincipal grant request key = 0 := by
      refine if_neg ?_
      rintro ⟨mint, rfl⟩
      exact outside _ (.principal grant request apply mint) inside
    simp [InMemoryExecutionState.content, commits.principals, nothing]

/-- The step of a call of another caller. It is the other premise of the rule for isolation: the
cells of the footprint stay as they are, at each of the exits. -/
theorem step_silent (call : Call ε τ) (outside : call.Outside footprint)
    (hidden : call.Hidden footprint view) :
    Isolation.Silent step (LookAlike footprint view) call := by
  rintro ⟨state, environment⟩
  cases call with
  | register resource initial =>
    simp only [step, registerResource]
    cases named : ResourceKey.tryFrom resource with
    | error problem => exact ⟨.refl state, rfl⟩
    | ok registered =>
      refine ⟨?_, rfl⟩
      intro cell inside
      cases cell with
      | intent intentId => rfl
      | total key => rfl
      | principal key => rfl
      | version key =>
        have other : key ≠ registered := by
          rintro rfl
          exact outside _ (.registered resource initial key named) inside
        simp [InMemoryExecutionState.content, AList.lookup_insert_ne other]
  | execute grant request apply =>
    obtain ⟨result, after, left, stepped, exits⟩ :=
      step_exit (state, environment) grant request apply
    rw [stepped]
    cases exits with
    | duplicate previous found same => exact ⟨.refl state, rfl⟩
    | conflict previous found different => exact ⟨.refl state, rfl⟩
    | rejected problem fresh allowed => exact ⟨.refl state, rfl⟩
    | denied fresh refused => exact ⟨record_audit_agrees footprint state _, rfl⟩
    | stale currentVersion fresh allowed => exact ⟨record_audit_agrees footprint state _, rfl⟩
    | rolledBack problem answered transaction left fresh allowed ran =>
      have unseen := hidden ⟨state.recordAudit (authorize state grant request)⟩
        (authorize state grant request) environment
      rw [ran] at unseen
      exact ⟨.refl state, unseen.views⟩
    | applied value transaction left after fresh allowed ran commits =>
      have unseen := hidden ⟨state.recordAudit (authorize state grant request)⟩
        (authorize state grant request) environment
      rw [ran] at unseen
      exact ⟨(committed_agrees grant request apply _ _ _ outside commits).trans
        (unseen.cells.trans (record_audit_agrees footprint state _)), unseen.views⟩

end Others

/-- Isolation: when the calls of a caller use cells of a footprint only, and the calls of the
others none of them, the caller is answered in a run of all calls as in a run of its own
calls alone, and both runs leave the footprint with the same content. The closures may
change the transaction and the environment, the caller's own within what the footprint and
the view show of them and those of the others outside of it.

Proof: two lemmas about one step are the premises of the library's rule for isolation. A call
within the footprint is answered alike in states that agree on it, and a call outside leaves the
footprint alone; both go through the exits of a call. -/
theorem isolated_from_others (footprint : Set Cell) (view : ε → ω) (own : Call ε τ → Bool)
    (environment alone : ε) (views : view environment = view alone) (calls : List (Call ε τ))
    (ours : ∀ call ∈ calls, own call = true →
      call.Within footprint ∧ call.Local footprint view)
    (theirs : ∀ call ∈ calls, own call = false →
      call.Outside footprint ∧ call.Hidden footprint view) :
    (history environment calls).2.filter (fun pair => own pair.1) =
        (history alone (calls.filter own)).2 ∧
      AgreeOn footprint (history environment calls).1.1
        (history alone (calls.filter own)).1.1 := by
  obtain ⟨sameRecord, alike⟩ := Isolation.run_isolated step (LookAlike footprint view)
    (look_alike_equivalence footprint view) own (.empty, environment) (.empty, alone)
    ⟨.refl _, views⟩ calls
    (fun call member mine => step_answered call (ours call member mine).1 (ours call member mine).2)
    (fun call member other =>
      step_silent call (theirs call member other).1 (theirs call member other).2)
  exact ⟨sameRecord, alike.cells⟩

/-- The cells that hold versions. -/
def versionCells : Set Cell := fun cell => ∃ key, cell = .version key

/-- Whether a call is an execution and no registration. -/
def Call.isExecution : Call ε τ → Bool
  | .register _ _ => false
  | .execute _ _ _ => true

/-- A registration uses a version. -/
theorem registration_within (resource : ResourceRef) (initial : UInt64) :
    (Call.register resource initial : Call ε τ).Within versionCells := by
  intro cell uses
  cases uses with
  | registered _ _ key named => exact ⟨key, rfl⟩

/-- A mint uses no version. It uses its intent and its two counters. -/
theorem mint_within (grant : VerifiedTrustGrant) (request : MutationRequest)
    (apply : Mutation ε τ) (mint : request.isMint = true) :
    (Call.execute grant request apply).Within versionCellsᶜ := by
  rintro cell uses ⟨key, rfl⟩
  cases uses with
  | version _ _ _ _ acted =>
    rw [existing_key_of_mint request mint] at acted
    cases acted

/-- The small mint uses no version, and its closure changes nothing. -/
theorem small_mint_local :
    (Call.execute smallGrant smallMintByActor unchanged).Within versionCellsᶜ ∧
      (Call.execute smallGrant smallMintByActor unchanged).Local versionCellsᶜ
        (id : Unit → Unit) := by
  refine ⟨mint_within _ _ _ (by decide +kernel), ?_⟩
  intro first second authorization environment other alike
  exact ⟨rfl, alike⟩

/-- A mint between two registrations is answered as the mint alone. Its footprint is every cell
but the versions, and the registrations use versions only. -/
theorem small_mint_isolated :
    (history () [.register smallItem 1, .execute smallGrant smallMintByActor unchanged,
      .register smallItem 2]).2.filter (fun pair => pair.1.isExecution) =
        (history () [.execute smallGrant smallMintByActor unchanged]).2 := by
  have registrationApart : ∀ initial,
      (Call.register smallItem initial : Call Unit Unit).isExecution ≠ true :=
    fun _ => Bool.false_ne_true
  refine (isolated_from_others versionCellsᶜ (id : Unit → Unit) Call.isExecution () () rfl
    [.register smallItem 1, .execute smallGrant smallMintByActor unchanged,
      .register smallItem 2] ?_ ?_).1
  · simp only [List.forall_mem_cons, List.not_mem_nil, IsEmpty.forall_iff, implies_true, and_true]
    exact ⟨fun execution => absurd execution (registrationApart 1), fun _ => small_mint_local,
      fun execution => absurd execution (registrationApart 2)⟩
  · simp only [List.forall_mem_cons, List.not_mem_nil, IsEmpty.forall_iff, implies_true, and_true]
    have outside : ∀ initial, (Call.register smallItem initial : Call Unit Unit).Outside
        versionCellsᶜ := fun initial cell uses inside =>
      inside (registration_within smallItem initial cell uses)
    exact ⟨fun _ => ⟨outside 1, trivial⟩, fun apart => absurd apart.symm Bool.false_ne_true,
      fun _ => ⟨outside 2, trivial⟩⟩

/-- A call that uses cells of one footprint uses none of a disjoint one. -/
theorem Call.Within.outside {footprint other : Set Cell} {call : Call ε τ}
    (within : call.Within footprint) (disjoint : Disjoint footprint other) :
    call.Outside other :=
  fun cell uses => Set.disjoint_left.mp disjoint (within cell uses)

end TrustGrant
