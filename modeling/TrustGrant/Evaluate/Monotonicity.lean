import TrustGrant.Evaluate.Decision
import Mathlib.Data.Option.Basic

/-!
# Authorization is monotone in the grant

Two grants are compared part by part. An amendment says how allow lists, deny lists,
limits, time window and freshness of the second grant may differ from the first; all
other parts are equal. Extending deny lists, extending allow lists and tightening bounds
are three amendments. An amendment that only restricts takes no allowed request into the
allowed ones, and an extension of allow lists is a restriction read backwards.

All three results are instances of one theorem about amendments that only restrict. It goes
through the groups of requirements, which were shown to decide a request, so the engine is
not looked at again.
-/

namespace TrustGrant

open Rust Library Library.OrderedChecks

/-- How the lists and bounds of a second grant may differ from those of a first. Each field is a
relation, so one structure covers all three ways to amend a grant. -/
structure Amendment where
  allow : ∀ {α : Type}, List α → List α → Prop
  deny : ∀ {α : Type}, List α → List α → Prop
  limit : Option UInt64 → Option UInt64 → Prop
  window : Option ValidatedTimeWindow → Option ValidatedTimeWindow → Prop
  freshUntil : DateTime → DateTime → Prop

namespace Amendment

/-- The same amendment, read from the second grant. -/
def flip (amendment : Amendment) : Amendment where
  allow before after := amendment.allow after before
  deny before after := amendment.deny after before
  limit before after := amendment.limit after before
  window before after := amendment.window after before
  freshUntil before after := amendment.freshUntil after before

/-- A limit is kept, lowered or newly set. -/
def LimitTightened (before after : Option UInt64) : Prop :=
  ∀ old ∈ before, ∃ new ∈ after, new ≤ old

/-- A window is kept, narrowed or newly set. -/
def WindowNarrowed (before after : Option ValidatedTimeWindow) : Prop :=
  ∀ old ∈ before, ∃ new ∈ after, old.notBefore ≤ new.notBefore ∧ new.notAfter ≤ old.notAfter

/-- Entries are added to deny lists. -/
def denyExtension : Amendment where
  allow before after := before = after
  deny before after := before ⊆ after
  limit before after := before = after
  window before after := before = after
  freshUntil before after := before = after

/-- Entries are added to allow lists. -/
def allowExtension : Amendment where
  allow before after := before ⊆ after
  deny before after := before = after
  limit before after := before = after
  window before after := before = after
  freshUntil before after := before = after

/-- Limits, time window and freshness are tightened. -/
def tightening : Amendment where
  allow before after := before = after
  deny before after := before = after
  limit := LimitTightened
  window := WindowNarrowed
  freshUntil before after := after ≤ before

/-- An amendment that takes something away and gives nothing. The fields say so of each
relation. -/
structure Restricts (amendment : Amendment) : Prop where
  allow : ∀ {α : Type} (before after : List α), amendment.allow before after → after ⊆ before
  deny : ∀ {α : Type} (before after : List α), amendment.deny before after → before ⊆ after
  limit : ∀ before after, amendment.limit before after → LimitTightened before after
  window : ∀ before after, amendment.window before after → WindowNarrowed before after
  freshUntil : ∀ before after, amendment.freshUntil before after → after ≤ before

/-- A limit that stays is tightened. -/
theorem limit_kept (before after : Option UInt64) (same : before = after) :
    LimitTightened before after := by
  subst same
  exact fun old present => ⟨old, present, UInt64.le_refl old⟩

/-- A window that stays is narrowed. -/
theorem window_kept (before after : Option ValidatedTimeWindow) (same : before = after) :
    WindowNarrowed before after := by
  subst same
  exact fun old present => ⟨old, present, le_refl _, le_refl _⟩

/-- Longer deny lists restrict. -/
theorem deny_extension_restricts : Restricts denyExtension where
  allow _ _ same := same ▸ List.Subset.refl _
  deny _ _ added := added
  limit := limit_kept
  window := window_kept
  freshUntil _ _ same := le_of_eq same.symm

/-- Shorter allow lists restrict. -/
theorem allow_extension_flip_restricts : Restricts allowExtension.flip where
  allow _ _ added := added
  deny _ _ same := same ▸ List.Subset.refl _
  limit _ _ same := limit_kept _ _ same.symm
  window _ _ same := window_kept _ _ same.symm
  freshUntil _ _ same := le_of_eq same

/-- Tighter bounds restrict. -/
theorem tightening_restricts : Restricts tightening where
  allow _ _ same := same ▸ List.Subset.refl _
  deny _ _ same := same ▸ List.Subset.refl _
  limit _ _ tightened := tightened
  window _ _ narrowed := narrowed
  freshUntil _ _ earlier := earlier

end Amendment

section Amended

variable (amendment : Amendment)

/-- A scope for all stays one, and any other scope keeps to its two lists. -/
structure ScopeAmended (before after : ValidatedScope) : Prop where
  all : before.all = after.all
  allow : amendment.allow before.allow after.allow
  deny : amendment.deny before.deny after.deny

/-- An entry keeps its authority. It keeps a principal scope or keeps to none: a scope that is newly
set is no amendment. It could only take away, so what is denied stays denied there too. -/
structure EntryAmended (before after : ValidatedAudienceEntry) : Prop where
  authorityId : before.authorityId = after.authorityId
  scope : ScopeAmended amendment before.scope after.scope
  principalScope : Option.Rel (ScopeAmended amendment) before.principalScope after.principalScope

/-- The two lists of an operation scope are amended as those of any other scope. -/
structure OperationsAmended (before after : ValidatedOperationScope) : Prop where
  allow : amendment.allow before.allow after.allow
  deny : amendment.deny before.deny after.deny

/-- A type keeps everything that amendments do not speak of. It keeps an operation scope or keeps to
none: without one only recognition is allowed and there is no list to extend, so a scope that is
newly set is no amendment. One with nothing but a deny list allows nothing, so on the deny side
the result holds for it too. -/
structure TypeAmended (before after : ValidatedResourceType) : Prop where
  all : before.all = after.all
  allow : amendment.allow before.allow after.allow
  deny : amendment.deny before.deny after.deny
  capabilities : before.capabilities = after.capabilities
  maxTotal : amendment.limit before.constraints.minting.maxTotal
    after.constraints.minting.maxTotal
  maxPerUser : amendment.limit before.constraints.minting.maxPerUser
    after.constraints.minting.maxPerUser
  audienceScope : List.Forall₂ (EntryAmended amendment) before.constraints.audienceScope
    after.constraints.audienceScope
  operations : Option.Rel (OperationsAmended amendment) before.operations after.operations

/-- The documents differ in the amended parts only. Each field compares one part, by the relation
that the amendment has for it or by equality. -/
structure DocumentAmended (before after : NormalizedTrustGrantDocument) : Prop where
  lineage : before.lineage = after.lineage
  issuerAuthority : before.issuerAuthority = after.issuerAuthority
  ownershipAuthorityState : before.ownershipAuthorityState = after.ownershipAuthorityState
  keyId : before.keyId = after.keyId
  targetScope : ScopeAmended amendment before.targetScope after.targetScope
  capabilities : before.capabilities = after.capabilities
  defaultAudienceScope : List.Forall₂ (EntryAmended amendment) before.defaultAudienceScope
    after.defaultAudienceScope
  resourceScope : ∀ name, Option.Rel (TypeAmended amendment) (before.resourceScope.get name)
    (after.resourceScope.get name)
  globalTimeWindow : amendment.window before.globalTimeWindow after.globalTimeWindow
  revocation : before.revocation = after.revocation
  issuedAt : before.issuedAt = after.issuedAt
  issuerPrincipal : before.issuerPrincipal = after.issuerPrincipal
  interoperabilityProfile : before.interoperabilityProfile = after.interoperabilityProfile

/-- The revocation states differ in the freshness of a checked record only. Its status is the
same. -/
inductive RevocationAmended : VerifiedRevocationState → VerifiedRevocationState → Prop where
  | nonRevocable : RevocationAmended .nonRevocable .nonRevocable
  | checked (before after : RevocationRecord) (status : before.status = after.status)
      (checkedAt : before.checkedAt = after.checkedAt)
      (freshUntil : amendment.freshUntil before.freshUntil after.freshUntil) :
      RevocationAmended (.checked before) (.checked after)

/-- The grants are equal except for the amendment. The identifier and the origin are among what
is equal. -/
structure GrantAmended (before after : VerifiedTrustGrant) : Prop where
  document : DocumentAmended amendment before.document after.document
  revocation : RevocationAmended amendment before.metadata.revocation after.metadata.revocation

variable {amendment}

/-- Optional values related one way are related backwards by the converse relation. -/
theorem option_rel_flip {α β : Type} {relation : α → β → Prop} {converse : β → α → Prop}
    (turned : ∀ first second, relation first second → converse second first)
    {left : Option α} {right : Option β} (related : Option.Rel relation left right) :
    Option.Rel converse right left := by
  cases related with
  | some holds => exact .some (turned _ _ holds)
  | none => exact .none

/-- What is related to a present value is present. -/
theorem option_rel_some {α β : Type} {relation : α → β → Prop} {value : α} {right : Option β}
    (related : Option.Rel relation (some value) right) :
    ∃ other, right = some other ∧ relation value other := by
  cases related with
  | some holds => exact ⟨_, rfl, holds⟩

/-- The same step read backwards: what was added to a deny list is left out of it. -/
theorem ScopeAmended.flip {before after : ValidatedScope}
    (amended : ScopeAmended amendment before after) : ScopeAmended amendment.flip after before :=
  ⟨amended.all.symm, amended.allow, amended.deny⟩

/-- An amended entry, read backwards. -/
theorem EntryAmended.flip {before after : ValidatedAudienceEntry}
    (amended : EntryAmended amendment before after) : EntryAmended amendment.flip after before :=
  ⟨amended.authorityId.symm, amended.scope.flip,
    option_rel_flip (fun _ _ scope => scope.flip) amended.principalScope⟩

/-- An amended audience, read backwards entry by entry. -/
theorem audience_amended_flip {before after : List ValidatedAudienceEntry}
    (amended : List.Forall₂ (EntryAmended amendment) before after) :
    List.Forall₂ (EntryAmended amendment.flip) after before :=
  (amended.imp fun _ _ entry => entry.flip).flip

/-- An amended type, read backwards. Parts that are equal are equal the other way, and the
amended ones are turned. -/
theorem TypeAmended.flip {before after : ValidatedResourceType}
    (amended : TypeAmended amendment before after) : TypeAmended amendment.flip after before where
  all := amended.all.symm
  allow := amended.allow
  deny := amended.deny
  capabilities := amended.capabilities.symm
  maxTotal := amended.maxTotal
  maxPerUser := amended.maxPerUser
  audienceScope := audience_amended_flip amended.audienceScope
  operations := option_rel_flip (fun _ _ scope => ⟨scope.allow, scope.deny⟩) amended.operations

/-- An amendment read backwards. Every field of the relation is symmetric once the direction of
its amendment is turned. -/
theorem GrantAmended.flip {before after : VerifiedTrustGrant}
    (amended : GrantAmended amendment before after) :
    GrantAmended amendment.flip after before where
  document := {
    lineage := amended.document.lineage.symm
    issuerAuthority := amended.document.issuerAuthority.symm
    ownershipAuthorityState := amended.document.ownershipAuthorityState.symm
    keyId := amended.document.keyId.symm
    targetScope := amended.document.targetScope.flip
    capabilities := amended.document.capabilities.symm
    defaultAudienceScope := audience_amended_flip amended.document.defaultAudienceScope
    resourceScope := fun name =>
      option_rel_flip (fun _ _ type => type.flip) (amended.document.resourceScope name)
    globalTimeWindow := amended.document.globalTimeWindow
    revocation := amended.document.revocation.symm
    issuedAt := amended.document.issuedAt.symm
    issuerPrincipal := amended.document.issuerPrincipal.symm
    interoperabilityProfile := amended.document.interoperabilityProfile.symm }
  revocation := by
    have states := amended.revocation
    generalize before.metadata.revocation = old at states ⊢
    generalize after.metadata.revocation = new at states ⊢
    cases states with
    | nonRevocable => exact .nonRevocable
    | checked before after status checkedAt freshUntil =>
      exact .checked after before status.symm checkedAt.symm freshUntil

/-- A restricted allow list allows nothing new. -/
theorem allows_of_restricted (all : Bool) (before after : List ValidatedSelector)
    (context : SelectorContext) (fewer : after ⊆ before) (allowed : Allows all after context) :
    Allows all before context := by
  rcases allowed with everything | ⟨selector, listed, selects⟩
  · exact .inl everything
  · exact .inr ⟨selector, fewer listed, selects⟩

/-- A restricted deny list denies no less. -/
theorem not_denies_of_restricted (before after : List ValidatedSelector)
    (context : SelectorContext) (more : before ⊆ after) (admitted : ¬ Denies after context) :
    ¬ Denies before context := by
  rintro ⟨selector, listed, selects⟩
  exact admitted ⟨selector, more listed, selects⟩

/-- Both sides of a restricted scope. -/
theorem scope_of_restricted (restricts : amendment.Restricts) {before after : ValidatedScope}
    (amended : ScopeAmended amendment before after) (context : SelectorContext) :
    (Allows after.all after.allow context → Allows before.all before.allow context) ∧
      (¬ Denies after.deny context → ¬ Denies before.deny context) := by
  rw [amended.all]
  exact ⟨allows_of_restricted _ _ _ context (restricts.allow _ _ amended.allow),
    not_denies_of_restricted _ _ context (restricts.deny _ _ amended.deny)⟩

/-- The entry of an authority is found at the same place of an amended list. An amendment keeps
the authorities of the entries, and the search looks at nothing else. -/
theorem find_entry_amended {before after : List ValidatedAudienceEntry}
    (amended : List.Forall₂ (EntryAmended amendment) before after) (authority : AuthorityId) :
    Option.Rel (EntryAmended amendment)
      (before.find? fun entry => entry.authorityId = authority)
      (after.find? fun entry => entry.authorityId = authority) := by
  induction amended with
  | nil => exact .none
  | @cons old new olds news entry rest inductionHypothesis =>
    rw [List.find?_cons, List.find?_cons, entry.authorityId]
    by_cases isEntry : new.authorityId = authority
    · simp only [isEntry, decide_true]
      exact .some entry
    · simp only [isEntry, decide_false]
      exact inductionHypothesis

/-- The effective audience lists of amended grants correspond. An amendment keeps which types
there are and whether a type has audiences of its own, so the same list is chosen. -/
theorem effective_audience_amended {before after : VerifiedTrustGrant}
    (amended : GrantAmended amendment before after) (request : EvaluationRequest) :
    List.Forall₂ (EntryAmended amendment) (effectiveAudience before request)
      (effectiveAudience after request) := by
  have types := amended.document.resourceScope request.resource.resourceType
  unfold effectiveAudience granted
  cases oldType : before.document.resourceScope.get request.resource.resourceType <;>
    cases newType : after.document.resourceScope.get request.resource.resourceType <;>
    rw [oldType, newType] at types
  · exact .nil
  · cases types
  · cases types
  · rename_i old new
    cases types with
    | some type =>
      have entries := type.audienceScope
      simp only
      generalize old.constraints.audienceScope = oldEntries at entries
      generalize new.constraints.audienceScope = newEntries at entries
      cases entries with
      | nil => exact amended.document.defaultAudienceScope
      | cons entry rest => exact .cons entry rest

/-- A saturated counter within a tightened limit is within the limit. -/
theorem counted_of_tightened (before after : Option UInt64) (counted : Nat)
    (tightened : Amendment.LimitTightened before after)
    (within : ∀ limit ∈ after, counted ≤ limit.toNat) :
    ∀ limit ∈ before, counted ≤ limit.toNat := by
  intro old present
  obtain ⟨new, newPresent, lower⟩ := tightened old present
  exact Nat.le_trans (within new newPresent) (UInt64.le_iff_toNat_le.mp lower)

/-- A tightened limit is there when the limit was. -/
theorem limited_of_tightened (before after : Option UInt64)
    (tightened : Amendment.LimitTightened before after) (limited : before ≠ none) :
    after ≠ none := by
  obtain ⟨limit, isLimit⟩ := Option.ne_none_iff_exists'.mp limited
  obtain ⟨newLimit, newPresent, -⟩ := tightened limit isLimit
  rw [newPresent]
  exact Option.some_ne_none newLimit

/-- A restriction leaves the revocation state alone. -/
theorem revocation_of_restricted (restricts : amendment.Restricts)
    {before after : VerifiedTrustGrant} (amended : GrantAmended amendment before after)
    (request : EvaluationRequest) (satisfied : Hold (revocationChecks after request)) :
    Hold (revocationChecks before request) := by
  have states := amended.revocation
  simp only [revocationChecks, hold_cons, hold_nil, and_true,
    amended.document.revocation] at satisfied ⊢
  generalize before.metadata.revocation = old at states ⊢
  generalize after.metadata.revocation = new at states satisfied
  cases states with
  | nonRevocable => exact satisfied
  | checked before after status checkedAt freshUntil =>
    simp only [VerifiedRevocationState.checked.injEq, forall_eq'] at satisfied ⊢
    obtain ⟨fresh, active⟩ := satisfied
    exact ⟨le_trans fresh (restricts.freshUntil _ _ freshUntil), status ▸ active⟩

/-- A restriction leaves the period alone. A narrower window lies inside the window, so a time in
the one is in the other. -/
theorem time_of_restricted (restricts : amendment.Restricts) {before after : VerifiedTrustGrant}
    (amended : GrantAmended amendment before after) (request : EvaluationRequest)
    (satisfied : Hold (timeChecks after request)) : Hold (timeChecks before request) := by
  have narrowed := restricts.window _ _ amended.document.globalTimeWindow
  simp only [timeChecks, hold_cons, hold_nil, and_true]
    at satisfied ⊢
  constructor
  · intro old present
    obtain ⟨new, newPresent, later, -⟩ := narrowed old present
    exact le_trans later (satisfied.1 new newPresent)
  · intro old present
    obtain ⟨new, newPresent, -, earlier⟩ := narrowed old present
    exact le_trans (satisfied.2 new newPresent) earlier

/-- A context that the more restricted target scope selects was selected before. Its allow list
has no more and its deny list no fewer selectors. -/
theorem target_of_restricted (restricts : amendment.Restricts)
    {before after : VerifiedTrustGrant} (amended : GrantAmended amendment before after)
    (request : EvaluationRequest) (satisfied : Hold (targetChecks after request)) :
    Hold (targetChecks before request) := by
  obtain ⟨allowed, admitted⟩ :=
    scope_of_restricted restricts amended.document.targetScope request.targetContext
  simp only [targetChecks, scopeChecks, List.cons_append, List.nil_append,
    hold_cons, hold_nil, and_true,
    amended.document.ownershipAuthorityState] at satisfied ⊢
  exact ⟨satisfied.1, allowed satisfied.2.1, admitted satisfied.2.2⟩

/-- The checks on the granted type, up to the audience. Allow lists of the restricted grant are
among those of the grant, deny lists contain them, and capabilities are left alone. -/
theorem type_of_restricted (restricts : amendment.Restricts) {before after : VerifiedTrustGrant}
    (amended : GrantAmended amendment before after) (request : EvaluationRequest)
    (satisfied : Hold (capabilityChecks after request ++ (resourceChecks after request ++
      operationChecks after request))) :
    Hold (capabilityChecks before request ++ (resourceChecks before request ++
      operationChecks before request)) := by
  have types := amended.document.resourceScope request.resource.resourceType
  simp only [capabilityChecks, resourceChecks, operationChecks, granted, List.cons_append,
    List.nil_append, hold_cons, hold_nil, and_true,
    amended.document.capabilities] at satisfied ⊢
  generalize before.document.resourceScope.get request.resource.resourceType = old at types ⊢
  generalize after.document.resourceScope.get request.resource.resourceType = new
    at types satisfied
  cases types with
  | none => simp
  | @some old new type =>
    simp only [Option.mem_def, Option.some.injEq, forall_eq'] at satisfied ⊢
    obtain ⟨capability, allowed, admitted, operation⟩ := satisfied
    refine ⟨?_, ?_, ?_, ?_⟩
    · rw [type.capabilities]
      exact capability
    · rw [type.all]
      exact allows_of_restricted _ _ _ _ (restricts.allow _ _ type.allow) allowed
    · exact not_denies_of_restricted _ _ _ (restricts.deny _ _ type.deny) admitted
    · have operations := type.operations
      generalize old.operations = oldOperations at operations ⊢
      generalize new.operations = newOperations at operations operation
      cases operations with
      | none => exact operation
      | some scope =>
        obtain ⟨⟨listed, present, named⟩, notDenied⟩ := operation
        exact ⟨⟨listed, restricts.allow _ _ scope.allow present, named⟩,
          fun denied member => notDenied denied (restricts.deny _ _ scope.deny member)⟩

/-- An audience that the more restricted entries admit was admitted before. The entry is found in
both lists because amended entries keep their authorities. -/
theorem audience_of_restricted (restricts : amendment.Restricts)
    {before after : VerifiedTrustGrant} (amended : GrantAmended amendment before after)
    (request : EvaluationRequest) (satisfied : Hold (audienceChecks after request)) :
    Hold (audienceChecks before request) := by
  have audiences := effective_audience_amended amended request
  have entries := find_entry_amended audiences request.audienceAuthority
  have nonempty : effectiveAudience before request ≠ [] → effectiveAudience after request ≠ [] := by
    intro listed empty
    rw [empty, List.forall₂_nil_right_iff] at audiences
    exact listed audiences
  simp only [audienceChecks, audienceEntry, hold_cons, hold_nil, and_true] at satisfied ⊢
  generalize ((effectiveAudience before request).find? fun entry =>
    entry.authorityId = request.audienceAuthority) = old at entries ⊢
  generalize ((effectiveAudience after request).find? fun entry =>
    entry.authorityId = request.audienceAuthority) = new at entries satisfied
  cases entries with
  | none => exact ⟨fun listed => satisfied.1 (nonempty listed), by simp, by simp, by simp, by simp⟩
  | @some old new entry =>
    simp only [Option.mem_def, Option.some.injEq, forall_eq'] at satisfied ⊢
    obtain ⟨-, allowed, admitted, principalAllowed, principalAdmitted⟩ := satisfied
    obtain ⟨allowedBefore, admittedBefore⟩ :=
      scope_of_restricted restricts entry.scope request.audienceContext
    refine ⟨fun _ => Option.some_ne_none old, allowedBefore allowed, admittedBefore admitted,
      ?_, ?_⟩
    · intro scope present
      obtain ⟨amendedScope, newScope, scopes⟩ := option_rel_some (present ▸ entry.principalScope)
      exact (scope_of_restricted restricts scopes _).1 (principalAllowed _ newScope)
    · intro scope present
      obtain ⟨amendedScope, newScope, scopes⟩ := option_rel_some (present ▸ entry.principalScope)
      exact (scope_of_restricted restricts scopes _).2 (principalAdmitted _ newScope)

/-- Limits are left alone, so counters within them stay within them. A tightened limit is lower
than the limit, and a limit that is newly set is no limit of the grant. -/
theorem mint_of_restricted (restricts : amendment.Restricts) {before after : VerifiedTrustGrant}
    (amended : GrantAmended amendment before after) (request : EvaluationRequest)
    (satisfied : Hold (mintChecks after request)) : Hold (mintChecks before request) := by
  have types := amended.document.resourceScope request.resource.resourceType
  simp only [mintChecks, granted, hold_cons, hold_nil, and_true]
    at satisfied ⊢
  generalize before.document.resourceScope.get request.resource.resourceType = old at types ⊢
  generalize after.document.resourceScope.get request.resource.resourceType = new
    at types satisfied
  cases types with
  | none => simp
  | @some old new type =>
    simp only [Option.mem_def, Option.some.injEq, forall_eq'] at satisfied ⊢
    obtain ⟨present, total, context, perUser⟩ := satisfied
    have totalTightened := restricts.limit _ _ type.maxTotal
    have perUserTightened := restricts.limit _ _ type.maxPerUser
    refine ⟨fun isMint limited => present isMint (limited.imp ?_ ?_), ?_, ?_, ?_⟩
    · exact limited_of_tightened _ _ totalTightened
    · exact limited_of_tightened _ _ perUserTightened
    · intro isMint mint counted
      exact counted_of_tightened _ _ _ totalTightened (total isMint mint counted)
    · exact fun isMint limited => context isMint (limited_of_tightened _ _ perUserTightened limited)
    · intro isMint mint counted
      exact counted_of_tightened _ _ _ perUserTightened (perUser isMint mint counted)

/-- What a restricted grant allows, the grant allows. The requirements are compared group by
group; the granted type is there in both, as amendments keep the types. -/
theorem allowed_of_restricted (restricts : amendment.Restricts)
    {before after : VerifiedTrustGrant} (amended : GrantAmended amendment before after)
    (request : EvaluationRequest)
    (allowed : (evaluate after request).decision.isAllowed = true) :
    (evaluate before request).decision.isAllowed = true := by
  rw [allowed_iff_requirements] at allowed ⊢
  simp only [requirements, hold_append, hold_cons, hold_nil, and_true] at allowed ⊢
  obtain ⟨⟨⟨⟨⟨⟨⟨⟨⟨selectors, revocation⟩, time⟩, target⟩, type⟩, capability⟩, resource⟩,
    operation⟩, audience⟩, mint⟩ := allowed
  have onType := type_of_restricted restricts amended request
    ((hold_append _ _).mpr ⟨capability, (hold_append _ _).mpr ⟨resource, operation⟩⟩)
  simp only [hold_append] at onType
  have typePresent : granted before request ≠ none := by
    have types := amended.document.resourceScope request.resource.resourceType
    intro absent
    rw [show before.document.resourceScope.get request.resource.resourceType = none from absent]
      at types
    cases newType : after.document.resourceScope.get request.resource.resourceType with
    | none => exact type newType
    | some new =>
      rw [newType] at types
      cases types
  exact ⟨⟨⟨⟨⟨⟨⟨⟨⟨selectors, revocation_of_restricted restricts amended request revocation⟩,
    time_of_restricted restricts amended request time⟩,
    target_of_restricted restricts amended request target⟩,
    typePresent⟩, onType.1⟩, onType.2.1⟩, onType.2.2⟩,
    audience_of_restricted restricts amended request audience⟩,
    mint_of_restricted restricts amended request mint⟩

end Amended

/-- Extending deny lists and tightening bounds take allowed requests away only, and extending
allow lists takes none away. Two of the amendments restrict a grant, the third one does so read
backwards, and what a restricted grant allows, the grant allows. -/
theorem authorization_monotone (before after : VerifiedTrustGrant) (request : EvaluationRequest) :
    (GrantAmended .denyExtension before after →
        (evaluate after request).decision.isAllowed = true →
          (evaluate before request).decision.isAllowed = true) ∧
      (GrantAmended .allowExtension before after →
        (evaluate before request).decision.isAllowed = true →
          (evaluate after request).decision.isAllowed = true) ∧
      (GrantAmended .tightening before after →
        (evaluate after request).decision.isAllowed = true →
          (evaluate before request).decision.isAllowed = true) :=
  ⟨fun amended => allowed_of_restricted Amendment.deny_extension_restricts amended request,
    fun amended =>
      allowed_of_restricted Amendment.allow_extension_flip_restricts amended.flip request,
    fun amended => allowed_of_restricted Amendment.tightening_restricts amended request⟩

/-! ## A small grant for a closed instance -/

/-- Optional values that stay are related by a reflexive relation. -/
theorem option_rel_kept {α : Type} {relation : α → α → Prop}
    (kept : ∀ value, relation value value) (value : Option α) :
    Option.Rel relation value value := by
  cases value with
  | none => exact .none
  | some value => exact .some (kept value)

/-- A scope that is left alone is amended by nothing. -/
theorem scope_kept (scope : ValidatedScope) : ScopeAmended .denyExtension scope scope :=
  ⟨rfl, rfl, List.Subset.refl _⟩

/-- An audience that is left alone is amended by nothing. -/
theorem audience_kept (entries : List ValidatedAudienceEntry) :
    List.Forall₂ (EntryAmended .denyExtension) entries entries :=
  List.forall₂_same.mpr fun entry _ =>
    ⟨rfl, scope_kept entry.scope, option_rel_kept scope_kept entry.principalScope⟩

/-- A type that is left alone is amended by nothing. -/
theorem type_kept (resourceType : ValidatedResourceType) :
    TypeAmended .denyExtension resourceType resourceType where
  all := rfl
  allow := rfl
  deny := List.Subset.refl _
  capabilities := rfl
  maxTotal := rfl
  maxPerUser := rfl
  audienceScope := audience_kept _
  operations := option_rel_kept (fun _ => ⟨rfl, List.Subset.refl _⟩) _

/-- A grant for every target. -/
def grantToAll : VerifiedTrustGrant :=
  .new (.ofValidated (Results.valueOf
    (ValidatedTrustGrantDocument.tryFrom Text.asciiCaseMapping
      (smallDocument ⟨true, none, none⟩ none none)) (by decide +kernel))) smallMetadata

/-- The same grant for every target but one. -/
def grantToAllButOne : VerifiedTrustGrant :=
  { grantToAll with document := { grantToAll.document with
      targetScope := Results.valueOf
        (validateScope "target_scope" ⟨true, none, some [smallSelector "did:o"]⟩)
        (by decide +kernel) } }

/-- What is allowed to all targets but one is allowed to all. The theorem is applied to the grant
to all, whose deny list is extended by this target. -/
theorem small_grant_monotone :
    (evaluate grantToAll smallRecognition).decision.isAllowed = true := by
  have sameAllowed : grantToAll.document.targetScope.allow =
      grantToAllButOne.document.targetScope.allow :=
    (List.isEmpty_iff.mp (by decide +kernel)).trans (List.isEmpty_iff.mp (by decide +kernel)).symm
  have moreDenied : grantToAll.document.targetScope.deny ⊆
      grantToAllButOne.document.targetScope.deny := by
    rw [List.isEmpty_iff.mp (show grantToAll.document.targetScope.deny.isEmpty = true by
      decide +kernel)]
    exact List.nil_subset _
  have amended : GrantAmended .denyExtension grantToAll grantToAllButOne := {
    document := {
      lineage := rfl
      issuerAuthority := rfl
      ownershipAuthorityState := rfl
      keyId := rfl
      targetScope := ⟨by decide +kernel, sameAllowed, moreDenied⟩
      capabilities := rfl
      defaultAudienceScope := audience_kept _
      resourceScope := fun name => option_rel_kept type_kept _
      globalTimeWindow := rfl
      revocation := rfl
      issuedAt := rfl
      issuerPrincipal := rfl
      interoperabilityProfile := rfl }
    revocation := .nonRevocable }
  exact (authorization_monotone grantToAll grantToAllButOne smallRecognition).1 amended
    (by decide +kernel)

end TrustGrant
