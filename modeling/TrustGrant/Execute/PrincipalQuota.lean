import TrustGrant.Execute.Quota
import Mathlib.Algebra.Order.BigOperators.Group.List

/-!
# The quota of one principal

The counter of a principal is kept under a text made from the spelled kinds of its
context. The evaluator compares kinds without regard to the case of built-in ones, so one
principal may be spelled in several ways. The text agrees with what a context denotes
exactly for contexts that spell their kinds alike, and among those the limit per user
holds for all mints of one principal together.

The bound for one principal is the bound for one counter, so what has to be shown is that
contexts which are spelled alike have one key. For contexts that are not, two mints of one
principal show that the limit does not hold.
-/

namespace TrustGrant

open Rust Library InMemoryAtomicInventoryExecutor

variable {ε τ : Type*}

/-- The principal context of a mint. -/
def MutationRequest.principal (request : MutationRequest) : SelectorContext :=
  request.request.audiencePrincipalContext

/-- The quantity that a list of mints asks for. -/
def askedBy (mints : List (VerifiedTrustGrant × MutationRequest)) : Nat :=
  (mints.map fun mint => mint.2.requestedQuantity.toNat).sum

/-- Mints of a record that count under one principal key ask for no more than was counted
under it. -/
theorem asked_le_minted (key : MintPrincipalKey) (record : List (Call ε τ × Answer τ))
    (mints : List (VerifiedTrustGrant × MutationRequest))
    (chosen : mints.Sublist (record.filterMap appliedMint))
    (counted : ∀ mint ∈ mints, (mintKeys mint.1 mint.2).2 = key) :
    askedBy mints ≤ mintedByPrincipal key record := by
  have asked : ∀ mint ∈ mints, mint.2.requestedQuantity.toNat =
      mintedForPrincipal mint.1 mint.2 key := by
    intro mint member
    obtain ⟨pair, -, applied⟩ := List.mem_filterMap.mp (chosen.subset member)
    have isMint : mint.2.isMint = true := by
      unfold appliedMint at applied
      split at applied
      · split at applied
        · cases applied
          assumption
        · cases applied
      · cases applied
    rw [mintedForPrincipal, if_pos ⟨isMint, counted mint member⟩]
  unfold askedBy mintedByPrincipal
  rw [List.map_congr_left asked]
  exact (chosen.map _).sum_le_sum fun _ _ => Nat.zero_le _

/-- Contexts that denote the same principal have one key when they are spelled alike. -/
theorem same_key_of_spelled_alike (left right : SelectorContext)
    (same : SelectorContext.SameSelectors left right)
    (spelled : SelectorContext.SpelledAlike left right) : left.stableKey = right.stableKey :=
  (SelectorContext.stable_key_eq_iff left right).mpr
    ((SelectorContext.same_spelling_iff left right same).mpr spelled)

/-- The limit per user holds for all mints of one principal that spell its kinds alike. Such
contexts have one key, so all these mints are counted by one counter, and the exact sum bounds
what they asked for. -/
theorem denoted_principal_within_limit (environment : ε) (calls : List (Call ε τ))
    (preserving : ∀ call ∈ calls, call.Preserving) (consistent : Consistent calls)
    (grant : VerifiedTrustGrant) (request : MutationRequest) (apply : Mutation ε τ)
    (called : .execute grant request apply ∈ calls) (name : ResourceTypeName)
    (resourceType : ValidatedResourceType)
    (found : grant.document.resourceScope.get name = some resourceType) (maxPerUser : UInt64)
    (limited : resourceType.constraints.minting.maxPerUser = some maxPerUser)
    (mints : List (VerifiedTrustGrant × MutationRequest))
    (chosen : mints.Sublist ((history environment calls).2.filterMap appliedMint))
    (counted : ∀ mint ∈ mints, (mintKeys mint.1 mint.2).1 = ⟨grant.id, name⟩)
    (onePrincipal : ∀ first ∈ mints, ∀ second ∈ mints,
      SelectorContext.SameSelectors first.2.principal second.2.principal)
    (spelled : ∀ first ∈ mints, ∀ second ∈ mints,
      SelectorContext.SpelledAlike first.2.principal second.2.principal) :
    askedBy mints ≤ maxPerUser.toNat := by
  cases mints with
  | nil => exact Nat.zero_le _
  | cons first rest =>
    have oneKey : ∀ mint ∈ first :: rest, (mintKeys mint.1 mint.2).2 =
        ⟨⟨grant.id, name⟩, first.2.principal.stableKey⟩ := by
      intro mint member
      have total := counted mint member
      have text : mint.2.principal.stableKey = first.2.principal.stableKey :=
        same_key_of_spelled_alike _ _ (onePrincipal mint member first List.mem_cons_self)
          (spelled mint member first List.mem_cons_self)
      rw [← total, ← text]
      rfl
    have within := history_within_limits grant environment calls preserving fun other
      otherRequest otherApply otherCalled => consistent other otherRequest otherApply grant
        request apply otherCalled called
    calc askedBy (first :: rest)
        ≤ mintedByPrincipal ⟨⟨grant.id, name⟩, first.2.principal.stableKey⟩
            (history environment calls).2 := asked_le_minted _ _ _ chosen oneKey
      _ ≤ maxPerUser.toNat := (within name resourceType found).2 maxPerUser limited _

/-- The key agrees with what two contexts denote exactly when contexts that denote the
same selectors spell their kinds alike; and in every run of preserving calls with one
document for each grant identifier, mints of one principal that spell its kinds alike stay
together within the limit per user.

Proof: two keys are equal exactly when the contexts list the same under every spelling, and
contexts that denote the same do so exactly when they spell their kinds alike. Mints with one key
are counted by one counter, which stays within the limit. -/
theorem principal_quota_when_spelled_alike :
    (∀ left right : SelectorContext,
      (left.stableKey = right.stableKey ↔ SelectorContext.SameSelectors left right) ↔
        (SelectorContext.SameSelectors left right → SelectorContext.SpelledAlike left right)) ∧
    ∀ (environment : ε) (calls : List (Call ε τ)), (∀ call ∈ calls, call.Preserving) →
      Consistent calls → ∀ grant request apply, .execute grant request apply ∈ calls →
      ∀ name resourceType, grant.document.resourceScope.get name = some resourceType →
      ∀ maxPerUser, resourceType.constraints.minting.maxPerUser = some maxPerUser →
      ∀ mints : List (VerifiedTrustGrant × MutationRequest),
        mints.Sublist ((history environment calls).2.filterMap appliedMint) →
        (∀ mint ∈ mints, (mintKeys mint.1 mint.2).1 = ⟨grant.id, name⟩) →
        (∀ first ∈ mints, ∀ second ∈ mints,
          SelectorContext.SameSelectors first.2.principal second.2.principal) →
        (∀ first ∈ mints, ∀ second ∈ mints,
          SelectorContext.SpelledAlike first.2.principal second.2.principal) →
        askedBy mints ≤ maxPerUser.toNat := by
  constructor
  · intro left right
    constructor
    · intro agrees same
      exact (SelectorContext.same_spelling_iff left right same).mp
        ((SelectorContext.stable_key_eq_iff left right).mp (agrees.mpr same))
    · intro alike
      constructor
      · intro sameKey
        exact SelectorContext.same_selectors_of_spelling left right
          ((SelectorContext.stable_key_eq_iff left right).mp sameKey)
      · intro same
        exact same_key_of_spelled_alike left right same (alike same)
  · intro environment calls preserving consistent grant request apply called name resourceType
      found maxPerUser limited mints chosen counted onePrincipal spelled
    exact denoted_principal_within_limit environment calls preserving consistent grant request
      apply called name resourceType found maxPerUser limited mints chosen counted onePrincipal
      spelled

/-- The applied mints of a record that were made for the principal with the actor p. -/
def smallMintsOfActor (record : List (Call Unit Unit × Answer Unit)) :
    List (VerifiedTrustGrant × MutationRequest) :=
  (record.filterMap appliedMint).filter fun mint =>
    mint.2.principal.stableKey = smallMintByActor.principal.stableKey

/-- Of two applied mints and a denied one, one was made for the principal with the actor p, who
stays within its limit of one. All its mints spell the kind alike, which is the condition under
which the limit holds. -/
theorem small_mint_principal_quota :
    (smallMintsOfActor (history () smallRun).2).length = 1 ∧
      askedBy (smallMintsOfActor (history () smallRun).2) ≤ 1 := by
  refine ⟨by decide +kernel, ?_⟩
  have limit : ((smallGrant.document.resourceScope.get
      smallMintByActor.request.resource.resourceType).bind fun resourceType =>
        resourceType.constraints.minting.maxPerUser) = some 1 := by decide +kernel
  obtain ⟨resourceType, found, limited⟩ := Option.bind_eq_some_iff.mp limit
  refine principal_quota_when_spelled_alike.2 () smallRun (small_calls_preserving _)
    (small_calls_consistent _) smallGrant smallMintByActor unchanged List.mem_cons_self _
    resourceType found 1 limited _ List.filter_sublist ?_ ?_ ?_
  · decide +kernel
  · decide +kernel
  · decide +kernel

/-- A mint of one item by the same principal, with the kind spelled in another case. -/
def smallMintBySpelledActor : MutationRequest :=
  Results.valueOf (smallMint [("Actor", "p")] 1 "b") (by decide +kernel)

/-- Under a limit of one item per user, one principal is granted two when it spells its kind in
two ways. Both contexts denote the same selectors, but their keys differ, so each spelling has a
counter of its own. -/
theorem principal_quota_exceeded :
    ((smallGrant.document.resourceScope.get
        smallMintByActor.request.resource.resourceType).bind fun resourceType =>
          resourceType.constraints.minting.maxPerUser) = some 1 ∧
    SelectorContext.SameSelectors smallMintByActor.principal
      smallMintBySpelledActor.principal ∧
    smallMintByActor.principal.stableKey ≠ smallMintBySpelledActor.principal.stableKey ∧
    (mintKeys smallGrant smallMintByActor).1 = (mintKeys smallGrant smallMintBySpelledActor).1 ∧
    askedBy ((history () (smallCalls [smallMintByActor, smallMintBySpelledActor])).2.filterMap
      appliedMint) = 2 := by
  refine ⟨?_, ?_, ?_, ?_, ?_⟩ <;> decide +kernel

end TrustGrant
