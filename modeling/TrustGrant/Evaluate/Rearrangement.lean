import TrustGrant.Evaluate.Decision
import TrustGrant.Library.SameItems

/-!
# Rearranged grants and requests

A grant is written in lists and a request is built by successive calls. None of their order
matters to a decision: selectors of a scope, values and expressions of a selector, names of
operations and entries of audiences may be rearranged and repeated, kinds may be spelled
otherwise, and the selectors of a request may be entered in any order. The decision is the
same, with the same reason.

The requirements of the rearranged grant and request are compared with the original ones,
one by one: same condition, same reason. What the conditions quantify over has the same
items on both sides, and the library's rules for such lists do the rest.
-/

namespace TrustGrant

open Rust Library Library.OrderedChecks

/-- Two selectors with the same values and expressions for the same kind. Order, repetition and
the spelling of the kind are free. -/
structure SelectorRearranged (first second : ValidatedSelector) : Prop where
  kind : first.kind.sameKind second.kind = true
  all : first.all = second.all
  values : ∀ value, value ∈ first.values ↔ value ∈ second.values
  expressions : ∀ expression, expression ∈ first.expressions ↔ expression ∈ second.expressions

/-- Lists of selectors with the same selectors. -/
abbrev SameListed := SameItems SelectorRearranged

/-- The lists of a scope are rearranged, and its selectors may be too. The flag is the same. -/
structure ScopeRearranged (first second : ValidatedScope) : Prop where
  all : first.all = second.all
  allow : SameListed first.allow second.allow
  deny : SameListed first.deny second.deny

/-- The entries of one authority whose scopes are rearranged. -/
structure EntryRearranged (first second : ValidatedAudienceEntry) : Prop where
  authorityId : first.authorityId = second.authorityId
  scope : ScopeRearranged first.scope second.scope
  principalScope : Option.Rel ScopeRearranged first.principalScope second.principalScope

/-- Audience lists with the same entries, one for each authority. Were an authority listed twice,
the first entry would be the one that counts. -/
structure AudienceRearranged (first second : List ValidatedAudienceEntry) : Prop where
  entries : SameItems EntryRearranged first second
  distinct : (first.map ValidatedAudienceEntry.authorityId).Nodup
  distinctToo : (second.map ValidatedAudienceEntry.authorityId).Nodup

/-- Scopes of operations with the same names in another order. -/
structure OperationsRearranged (first second : ValidatedOperationScope) : Prop where
  allow : ∀ name, name ∈ first.allow ↔ name ∈ second.allow
  deny : ∀ name, name ∈ first.deny ↔ name ∈ second.deny

/-- A resource type whose lists are rearranged and whose limits are the same. Lists are compared
by what they list, and the limits and capabilities are numbers and flags. -/
structure TypeRearranged (first second : ValidatedResourceType) : Prop where
  all : first.all = second.all
  allow : SameListed first.allow second.allow
  deny : SameListed first.deny second.deny
  capabilities : first.capabilities = second.capabilities
  minting : first.constraints.minting = second.constraints.minting
  audienceScope : AudienceRearranged first.constraints.audienceScope
    second.constraints.audienceScope
  operations : Option.Rel OperationsRearranged first.operations second.operations

/-- Two grants that differ in the order, the repetition and the spelling of what they list. What
an evaluation reads besides is the same in both. -/
structure GrantRearranged (first second : VerifiedTrustGrant) : Prop where
  grantId : first.id = second.id
  ownership : first.document.ownershipAuthorityState = second.document.ownershipAuthorityState
  targetScope : ScopeRearranged first.document.targetScope second.document.targetScope
  capabilities : first.document.capabilities = second.document.capabilities
  defaultAudienceScope : AudienceRearranged first.document.defaultAudienceScope
    second.document.defaultAudienceScope
  resourceScope : ∀ name, Option.Rel TypeRearranged (first.document.resourceScope.get name)
    (second.document.resourceScope.get name)
  globalTimeWindow : first.document.globalTimeWindow = second.document.globalTimeWindow
  revocation : first.document.revocation = second.document.revocation
  revocationState : first.metadata.revocation = second.metadata.revocation

/-- Two requests that differ in how their selectors were entered. Their contexts denote the same
selectors, which says nothing about order and spelling. -/
structure RequestRearranged (first second : EvaluationRequest) : Prop where
  operation : first.operation = second.operation
  originAuthority : first.originAuthority = second.originAuthority
  audienceAuthority : first.audienceAuthority = second.audienceAuthority
  resourceType : first.resource.resourceType = second.resource.resourceType
  mintContext : first.mintContext = second.mintContext
  evaluatedAt : first.evaluatedAt = second.evaluatedAt
  selectorsVerified : first.selectorsVerified = second.selectorsVerified
  target : first.targetContext.SameSelectors second.targetContext
  audience : first.audienceContext.SameSelectors second.audienceContext
  principal : first.audiencePrincipalContext.SameSelectors second.audiencePrincipalContext
  resource : first.resource.selectors.SameSelectors second.resource.selectors

section Scopes

variable {context other : SelectorContext}

/-- A rearranged selector selects a context with the same selectors alike. Selection is stated
with membership of values, which has no order. -/
theorem selects_rearranged (same : context.SameSelectors other)
    (first second : ValidatedSelector) (rearranged : SelectorRearranged first second) :
    Selects first context ↔ Selects second other := by
  have sameValues : context.valueSet first.kind = other.valueSet second.kind := by
    rw [same first.kind]
    exact other.value_set_same_kind _ _ rearranged.kind
  unfold Selects
  simp only [rearranged.all, sameValues, rearranged.values, rearranged.expressions]

/-- Rearranged allow lists allow alike. -/
theorem allows_rearranged (same : context.SameSelectors other) (all : Bool)
    (first second : List ValidatedSelector) (rearranged : SameListed first second) :
    Allows all first context ↔ Allows all second other :=
  or_congr Iff.rfl (rearranged.exists_iff (selects_rearranged same))

/-- Rearranged deny lists deny alike. -/
theorem denies_rearranged (same : context.SameSelectors other)
    (first second : List ValidatedSelector) (rearranged : SameListed first second) :
    Denies first context ↔ Denies second other :=
  rearranged.exists_iff (selects_rearranged same)

/-- A requirement about a present value is shared by related optional values. Two absent values
require nothing. -/
theorem option_rel_forall_iff {α β : Type} {Related : α → β → Prop} {first : Option α}
    {second : Option β} (related : Option.Rel Related first second) {Holds : α → Prop}
    {HoldsToo : β → Prop} (alike : ∀ value other, Related value other →
      (Holds value ↔ HoldsToo other)) :
    (∀ value ∈ first, Holds value) ↔ ∀ other ∈ second, HoldsToo other := by
  cases related with
  | none => simp
  | some isPair => simpa using alike _ _ isPair

end Scopes

section Checks

variable {first second : VerifiedTrustGrant} {request other : EvaluationRequest}

/-- The type that a request names is found in both grants, since maps of types are compared name
by name. -/
theorem granted_rearranged (grants : GrantRearranged first second)
    (requests : RequestRearranged request other) :
    Option.Rel TypeRearranged (granted first request) (granted second other) := by
  unfold granted
  rw [requests.resourceType]
  exact grants.resourceScope other.resource.resourceType

/-- The audience list that applies to a request is the rearranged one. Rearrangement keeps
whether a list is empty, so the same of the two lists is chosen. -/
theorem effective_audience_rearranged (grants : GrantRearranged first second)
    (requests : RequestRearranged request other) :
    AudienceRearranged (effectiveAudience first request) (effectiveAudience second other) := by
  have typed := granted_rearranged grants requests
  unfold effectiveAudience
  generalize granted first request = found at typed
  generalize granted second other = foundToo at typed
  cases typed with
  | none => exact ⟨⟨by simp, by simp⟩, List.nodup_nil, List.nodup_nil⟩
  | @some resourceType resourceTypeToo rearranged =>
    have ofType := rearranged.audienceScope
    have emptyAlike := ofType.entries.empty_iff
    simp only
    generalize resourceType.constraints.audienceScope = entries at ofType emptyAlike ⊢
    generalize resourceTypeToo.constraints.audienceScope = entriesToo at ofType emptyAlike ⊢
    cases entries with
    | nil =>
      obtain rfl := emptyAlike.mp rfl
      exact grants.defaultAudienceScope
    | cons entry rest =>
      obtain ⟨entryToo, restToo, rfl⟩ :=
        List.exists_cons_of_ne_nil (mt emptyAlike.mpr (List.cons_ne_nil entry rest))
      exact ofType

/-- The entry of an authority is found in both grants. Here the distinctness of the audience is
needed: the first entry of a list is not the first of its rearrangement. -/
theorem audience_entry_rearranged (grants : GrantRearranged first second)
    (requests : RequestRearranged request other) :
    Option.Rel EntryRearranged (audienceEntry first request) (audienceEntry second other) := by
  have rearranged := effective_audience_rearranged grants requests
  unfold audienceEntry
  rw [requests.audienceAuthority]
  exact rearranged.entries.find_related _ _ (fun _ _ related => related.authorityId)
    rearranged.distinct rearranged.distinctToo other.audienceAuthority

/-- Related options are absent together. -/
theorem option_rel_none_iff {α β : Type} {Related : α → β → Prop} {first : Option α}
    {second : Option β} (related : Option.Rel Related first second) :
    first = none ↔ second = none := by
  cases related <;> simp

/-- Two scopes with the same selectors require the same. Both checks are compared, with their
reasons. -/
theorem scope_checks_rearranged {context otherContext : SelectorContext}
    (same : context.SameSelectors otherContext) (all : Bool)
    (allow allowToo deny denyToo : List ValidatedSelector) (sameAllow : SameListed allow allowToo)
    (sameDeny : SameListed deny denyToo) (deniedReason notAllowedReason : EvaluationDenyReason) :
    List.Forall₂ SameCheck
      (scopeChecks all allow deny context deniedReason notAllowedReason)
      (scopeChecks all allowToo denyToo otherContext deniedReason notAllowedReason) :=
  .cons ⟨allows_rearranged same all allow allowToo sameAllow, rfl⟩
    (.cons ⟨not_congr (denies_rearranged same deny denyToo sameDeny), rfl⟩ .nil)

/-- Revocation is judged by status, effect and operation, which a rearrangement keeps. -/
theorem revocation_checks_rearranged (grants : GrantRearranged first second)
    (requests : RequestRearranged request other) :
    List.Forall₂ SameCheck (revocationChecks first request) (revocationChecks second other) := by
  unfold revocationChecks
  rw [grants.revocationState, grants.revocation, requests.operation, requests.evaluatedAt]
  exact List.forall₂_same.mpr fun check _ => ⟨Iff.rfl, rfl⟩

/-- The period of the grant and the time of the request are the same. -/
theorem time_checks_rearranged (grants : GrantRearranged first second)
    (requests : RequestRearranged request other) :
    List.Forall₂ SameCheck (timeChecks first request) (timeChecks second other) := by
  unfold timeChecks
  rw [grants.globalTimeWindow, requests.evaluatedAt]
  exact List.forall₂_same.mpr fun check _ => ⟨Iff.rfl, rfl⟩

/-- The target scope selects the same contexts. -/
theorem target_checks_rearranged (grants : GrantRearranged first second)
    (requests : RequestRearranged request other) :
    List.Forall₂ SameCheck (targetChecks first request) (targetChecks second other) := by
  unfold targetChecks
  rw [grants.ownership, requests.originAuthority, grants.targetScope.all]
  exact List.rel_append (.cons ⟨Iff.rfl, rfl⟩ .nil)
    (scope_checks_rearranged requests.target _ _ _ _ _ grants.targetScope.allow
      grants.targetScope.deny _ _)

/-- The capabilities of the grant and of the type are the same. -/
theorem capability_checks_rearranged (grants : GrantRearranged first second)
    (requests : RequestRearranged request other) :
    List.Forall₂ SameCheck (capabilityChecks first request) (capabilityChecks second other) := by
  refine .cons ⟨option_rel_forall_iff (granted_rearranged grants requests) ?_, rfl⟩ .nil
  intro resourceType resourceTypeToo rearranged
  rw [requests.operation, rearranged.capabilities, grants.capabilities]

/-- The scope of the type selects the same resources. -/
theorem resource_checks_rearranged (grants : GrantRearranged first second)
    (requests : RequestRearranged request other) :
    List.Forall₂ SameCheck (resourceChecks first request) (resourceChecks second other) := by
  have typed := granted_rearranged grants requests
  refine .cons ⟨option_rel_forall_iff typed ?_, rfl⟩
    (.cons ⟨option_rel_forall_iff typed ?_, rfl⟩ .nil)
  · intro resourceType resourceTypeToo rearranged
    rw [rearranged.all]
    exact allows_rearranged requests.resource _ _ _ rearranged.allow
  · intro resourceType resourceTypeToo rearranged
    exact not_congr (denies_rearranged requests.resource _ _ rearranged.deny)

/-- The same operation names are allowed and denied. Names are compared by membership, and a
missing scope is missing in both. -/
theorem operation_checks_rearranged (grants : GrantRearranged first second)
    (requests : RequestRearranged request other) :
    List.Forall₂ SameCheck (operationChecks first request) (operationChecks second other) := by
  refine .cons ⟨option_rel_forall_iff (granted_rearranged grants requests) ?_, rfl⟩ .nil
  intro resourceType resourceTypeToo rearranged
  have operations := rearranged.operations
  rw [requests.operation]
  generalize resourceType.operations = scope at operations
  generalize resourceTypeToo.operations = scopeToo at operations
  cases operations with
  | none => exact Iff.rfl
  | some sameNames => simp only [sameNames.allow, sameNames.deny]

/-- The audience is found under the same authority and selects the same contexts. The authorities
of a list are distinct, so its order does not matter for the search. -/
theorem audience_checks_rearranged (grants : GrantRearranged first second)
    (requests : RequestRearranged request other) :
    List.Forall₂ SameCheck (audienceChecks first request) (audienceChecks second other) := by
  have audiences := effective_audience_rearranged grants requests
  have entries := audience_entry_rearranged grants requests
  refine .cons ⟨?_, rfl⟩ (.cons ⟨option_rel_forall_iff entries ?_, rfl⟩
    (.cons ⟨option_rel_forall_iff entries ?_, rfl⟩
      (.cons ⟨option_rel_forall_iff entries ?_, rfl⟩
        (.cons ⟨option_rel_forall_iff entries ?_, rfl⟩ .nil))))
  · exact imp_congr (not_congr audiences.entries.empty_iff)
      (not_congr (option_rel_none_iff entries))
  · intro entry entryToo rearranged
    rw [rearranged.scope.all]
    exact allows_rearranged requests.audience _ _ _ rearranged.scope.allow
  · intro entry entryToo rearranged
    exact not_congr (denies_rearranged requests.audience _ _ rearranged.scope.deny)
  · intro entry entryToo rearranged
    refine option_rel_forall_iff rearranged.principalScope fun scope scopeToo sameScope => ?_
    rw [sameScope.all]
    exact allows_rearranged requests.principal _ _ _ sameScope.allow
  · intro entry entryToo rearranged
    refine option_rel_forall_iff rearranged.principalScope fun scope scopeToo sameScope => ?_
    exact not_congr (denies_rearranged requests.principal _ _ sameScope.deny)

/-- The limits and the counters are the same. -/
theorem mint_checks_rearranged (grants : GrantRearranged first second)
    (requests : RequestRearranged request other) :
    List.Forall₂ SameCheck (mintChecks first request) (mintChecks second other) := by
  have typed := granted_rearranged grants requests
  have sameValues : ∀ kind, request.audiencePrincipalContext.valueSet kind =
      other.audiencePrincipalContext.valueSet kind := requests.principal
  unfold mintChecks
  rw [requests.operation, requests.mintContext]
  refine .cons ⟨option_rel_forall_iff typed ?_, rfl⟩
    (.cons ⟨option_rel_forall_iff typed ?_, rfl⟩
      (.cons ⟨option_rel_forall_iff typed ?_, rfl⟩
        (.cons ⟨option_rel_forall_iff typed ?_, rfl⟩ .nil)))
  all_goals intro resourceType resourceTypeToo rearranged
  · rw [rearranged.minting]
  · rw [rearranged.minting]
  · simp only [rearranged.minting, sameValues]
  · rw [rearranged.minting]

/-- The requirements of rearranged grants and requests are the same one by one. Each group is
compared on its own; the reasons are constants, and the conditions are stated with membership,
which no order changes. -/
theorem requirements_rearranged (grants : GrantRearranged first second)
    (requests : RequestRearranged request other) :
    List.Forall₂ SameCheck (requirements first request) (requirements second other) := by
  have selectors : List.Forall₂ SameCheck (selectorChecks request) (selectorChecks other) := by
    unfold selectorChecks
    rw [requests.operation, requests.selectorsVerified]
    exact .cons ⟨Iff.rfl, rfl⟩ .nil
  have typed : SameCheck (⟨granted first request ≠ none, .resourceTypeNotGranted⟩ :
      Check EvaluationDenyReason) ⟨granted second other ≠ none, .resourceTypeNotGranted⟩ :=
    ⟨not_congr (option_rel_none_iff (granted_rearranged grants requests)), rfl⟩
  unfold requirements
  exact List.rel_append (List.rel_append (List.rel_append (List.rel_append (List.rel_append
    (List.rel_append (List.rel_append (List.rel_append (List.rel_append selectors
      (revocation_checks_rearranged grants requests)) (time_checks_rearranged grants requests))
      (target_checks_rearranged grants requests)) (.cons typed .nil))
      (capability_checks_rearranged grants requests))
      (resource_checks_rearranged grants requests))
      (operation_checks_rearranged grants requests))
      (audience_checks_rearranged grants requests)) (mint_checks_rearranged grants requests)

end Checks

/-- Rearrangement decides nothing: a rearranged grant decides a rearranged request as the
grant decides the request, with the same reason when it is denied.

Proof: the requirements of both are the same one by one, with the same reasons in the same order,
and they decide the two decisions. -/
theorem rearranged_decided_alike (first second : VerifiedTrustGrant)
    (request other : EvaluationRequest) (grants : GrantRearranged first second)
    (requests : RequestRearranged request other) :
    (evaluate first request).decision = (evaluate second other).decision :=
  decision_congr first second request other grants.grantId
    (requirements_rearranged grants requests)

/-! ## A small grant for a closed instance -/

/-- The selector of one authority. -/
def smallDenied (authority : String) : ValidatedSelector :=
  ⟨.authority, false, [authority], [], by simp⟩

/-- The small document validates, so a grant can be made from it. -/
theorem small_document_validates :
    (ValidatedTrustGrantDocument.tryFrom Text.asciiCaseMapping
      (smallDocument ⟨true, none, none⟩ none none)).isOk = true := by
  decide +kernel

/-- A grant for every target but some. -/
def grantToAllBut (denied : List ValidatedSelector) : VerifiedTrustGrant :=
  .new (.ofValidated { Results.valueOf
    (ValidatedTrustGrantDocument.tryFrom Text.asciiCaseMapping
      (smallDocument ⟨true, none, none⟩ none none)) small_document_validates with
    targetScope := ⟨true, [], denied, by simp⟩ }) smallMetadata

/-- A recognition with some selectors of its audience. -/
def smallRecognitionFor (selectors : List (String × String)) :
    Except TrustGrantError EvaluationRequest :=
  selectors.foldlM (fun request selector =>
    request.insertAudienceSelector selector.1 selector.2) smallRecognition

/-- A recognition whose selectors are inserted in one order. -/
def smallRecognitionForward : EvaluationRequest :=
  Results.valueOf (smallRecognitionFor [("actor", "p"), ("team", "t")]) (by decide +kernel)

/-- The same recognition with its selectors inserted in the other order. -/
def smallRecognitionBackward : EvaluationRequest :=
  Results.valueOf (smallRecognitionFor [("team", "t"), ("actor", "p")]) (by decide +kernel)

/-- A selector is a rearrangement of itself. -/
theorem selector_rearranged_refl (selector : ValidatedSelector) :
    SelectorRearranged selector selector :=
  ⟨SelectorKind.same_kind_refl _, rfl, fun _ => Iff.rfl, fun _ => Iff.rfl⟩

/-- A type without audiences of its own is rearranged to itself. -/
theorem type_rearranged_refl (resourceType : ValidatedResourceType)
    (withoutAudience : resourceType.constraints.audienceScope = []) :
    TypeRearranged resourceType resourceType where
  all := rfl
  allow := .of_perm selector_rearranged_refl (.refl _)
  deny := .of_perm selector_rearranged_refl (.refl _)
  capabilities := rfl
  minting := rfl
  audienceScope := by
    rw [withoutAudience]
    exact ⟨⟨by simp, by simp⟩, List.nodup_nil, List.nodup_nil⟩
  operations := by
    cases resourceType.operations with
    | none => exact .none
    | some scope => exact .some ⟨fun _ => Iff.rfl, fun _ => Iff.rfl⟩

/-- With both lists turned around the decision is the same. The theorem is applied to the two
grants and the two requests; what is not turned around is rearranged to itself. -/
theorem small_recognition_rearranged :
    (evaluate (grantToAllBut [smallDenied "did:o", smallDenied "did:q"])
        smallRecognitionForward).decision =
      (evaluate (grantToAllBut [smallDenied "did:q", smallDenied "did:o"])
        smallRecognitionBackward).decision := by
  have withoutDefault : (grantToAllBut
      [smallDenied "did:q", smallDenied "did:o"]).document.defaultAudienceScope = [] :=
    List.isEmpty_iff.mp (by decide +kernel)
  have withoutAudience : ∀ entry ∈ (grantToAllBut
      [smallDenied "did:q", smallDenied "did:o"]).document.resourceScope.entries,
      entry.2.constraints.audienceScope.isEmpty = true := by
    decide +kernel
  refine rearranged_decided_alike _ _ _ _ ?_ ?_
  · refine ⟨rfl, rfl, ⟨rfl, .of_perm selector_rearranged_refl .nil,
      .of_perm selector_rearranged_refl (.swap _ _ _)⟩, rfl, ?_, ?_, rfl, rfl, rfl⟩
    · have sameEntries : AudienceRearranged [] [] :=
        ⟨⟨by simp, by simp⟩, List.nodup_nil, List.nodup_nil⟩
      rw [← withoutDefault] at sameEntries
      exact sameEntries
    · intro name
      change Option.Rel TypeRearranged
        ((grantToAllBut [smallDenied "did:q", smallDenied "did:o"]).document.resourceScope.get name)
        _
      generalize ran : (grantToAllBut
        [smallDenied "did:q", smallDenied "did:o"]).document.resourceScope.get name = listed
      cases listed with
      | none => exact .none
      | some resourceType =>
        have present := SortedMap.mem_of_get _ _ _ ran
        exact .some (type_rearranged_refl resourceType
          (List.isEmpty_iff.mp (withoutAudience _ present)))
  · exact ⟨by decide +kernel, by decide +kernel, by decide +kernel, by decide +kernel,
      by decide +kernel, by decide +kernel, by decide +kernel, by decide +kernel,
      by decide +kernel, by decide +kernel, by decide +kernel⟩

end TrustGrant
