import TrustGrant.Verify.Rehydration

/-!
# Drafts of issuers

An issuer fills a draft in and turns it into the document that is signed, then into the
signed document. The draft checks what it is given of a lineage and of a time window;
the scopes, the audience and the principal are kept as they are supplied.
-/

namespace TrustGrant

open Rust Limits Library

/-- The authorities of a draft. They are identifiers already, so the draft has nothing to
check. -/
structure TrustGrantDraftAuthorities where
  issuerAuthority : AuthorityId
  originAuthority : AuthorityId
  activeOwningAuthority : AuthorityId

namespace TrustGrantDraftAuthorities

/-- An issuer that owns what it grants and from which it originates. -/
def selfOwned (mapping : Text.CaseMapping) (authority : String) :
    Except TrustGrantError TrustGrantDraftAuthorities := do
  let authority ← AuthorityId.new mapping authority
  return ⟨authority, authority, authority⟩

/-- Three authorities that may differ. -/
def new (mapping : Text.CaseMapping)
    (issuerAuthority originAuthority activeOwningAuthority : String) :
    Except TrustGrantError TrustGrantDraftAuthorities := do
  let issuerAuthority ← AuthorityId.new mapping issuerAuthority
  let originAuthority ← AuthorityId.new mapping originAuthority
  let activeOwningAuthority ← AuthorityId.new mapping activeOwningAuthority
  return ⟨issuerAuthority, originAuthority, activeOwningAuthority⟩

/-- Authorities that one of the two constructors returned. -/
inductive Made (mapping : Text.CaseMapping) (authorities : TrustGrantDraftAuthorities) : Prop
  | selfOwned (authority : String)
      (accepted : TrustGrantDraftAuthorities.selfOwned mapping authority = .ok authorities)
  | new (issuerAuthority originAuthority activeOwningAuthority : String)
      (accepted : TrustGrantDraftAuthorities.new mapping issuerAuthority originAuthority
        activeOwningAuthority = .ok authorities)

end TrustGrantDraftAuthorities

/-- A grant before it is signed. Some of its parts were checked when they were supplied, the
others are kept as they were given. -/
structure TrustGrantDraft where
  trustgrantId : TrustGrantId
  grantSeriesId : GrantSeriesId
  revision : GrantRevision
  supersedes : Option TrustGrantId
  supersessionPolicy : SupersessionPolicy
  issuerAuthority : AuthorityId
  originAuthority : AuthorityId
  activeOwningAuthority : AuthorityId
  keyId : KeyId
  targetScope : RawScope
  capabilities : RawCapabilities
  defaultAudienceScope : List RawAudienceEntry
  resourceScope : RawResourceScope
  globalTimeWindow : Option RawTimeWindow
  revocation : Option RawRevocation
  issuedAt : DateTime
  issuerPrincipal : Option RawPrincipal
  interoperabilityProfile : Option InteroperabilityProfile

namespace TrustGrantDraft

/-- `TrustGrantDraft::new`, given the two identifiers that it generates. The source draws them at
random, so they are arguments here. -/
def new (trustgrantId : TrustGrantId) (grantSeriesId : GrantSeriesId)
    (authorities : TrustGrantDraftAuthorities) (keyId : String) (targetScope : RawScope)
    (capabilities : RawCapabilities) (resourceScope : RawResourceScope) (issuedAt : DateTime) :
    Except TrustGrantError TrustGrantDraft := do
  let revision ← GrantRevision.new 1
  let keyId ← KeyId.new keyId
  return {
    trustgrantId, grantSeriesId, revision, keyId, targetScope, capabilities, resourceScope, issuedAt
    supersedes := none
    supersessionPolicy := .coexist
    issuerAuthority := authorities.issuerAuthority
    originAuthority := authorities.originAuthority
    activeOwningAuthority := authorities.activeOwningAuthority
    defaultAudienceScope := []
    globalTimeWindow := none
    revocation := none
    issuerPrincipal := none
    interoperabilityProfile := none }

/-- `with_lineage`: a later revision of a series. A wire document cannot ask for explicit
revocation, so this is refused here already. -/
def withLineage (draft : TrustGrantDraft) (grantSeriesId : GrantSeriesId)
    (revision : GrantRevision) (supersedes : Option TrustGrantId)
    (supersessionPolicy : SupersessionPolicy) : Except TrustGrantError TrustGrantDraft := do
  Results.rejectIf (supersessionPolicy = .explicitRevocationRequired)
    .unsupportedV0WireSupersessionPolicy
  Results.rejectIf (revision.get = 1 ∧ supersedes.isSome) .invalidSupersedesForFirstRevision
  Results.rejectIf (supersedes = some draft.trustgrantId) .selfSupersession
  return { draft with grantSeriesId, revision, supersedes, supersessionPolicy }

/-- `with_default_audience_scope`: taken as it is, and validated with the whole document. -/
def withDefaultAudienceScope (draft : TrustGrantDraft) (audienceScope : List RawAudienceEntry) :
    TrustGrantDraft :=
  { draft with defaultAudienceScope := audienceScope }

/-- `with_global_time_window`: the ends are compared at once. -/
def withGlobalTimeWindow (draft : TrustGrantDraft) (timeWindow : RawTimeWindow) :
    Except TrustGrantError TrustGrantDraft := do
  Results.rejectIf (timeWindow.notBefore > timeWindow.notAfter) .invalidTimeWindow
  return { draft with globalTimeWindow := some timeWindow }

/-- `with_revocation`: taken as it is. -/
def withRevocation (draft : TrustGrantDraft) (revocation : RawRevocation) : TrustGrantDraft :=
  { draft with revocation := some revocation }

/-- `with_issuer_principal`: taken as it is. -/
def withIssuerPrincipal (draft : TrustGrantDraft) (issuerPrincipal : RawPrincipal) :
    TrustGrantDraft :=
  { draft with issuerPrincipal := some issuerPrincipal }

/-- `with_interoperability_profile`: taken as it is. -/
def withInteroperabilityProfile (draft : TrustGrantDraft)
    (interoperabilityProfile : InteroperabilityProfile) : TrustGrantDraft :=
  { draft with interoperabilityProfile := some interoperabilityProfile }

/-- The document to be signed, of a borrowed draft. The signature is the empty text, and the
fields are written from the draft one by one. -/
def signableDocument (draft : TrustGrantDraft) : Except TrustGrantError RawTrustGrantDocument := do
  let supersessionPolicy ← rawSupersessionPolicy draft.supersessionPolicy
  return {
    trustgrantId := draft.trustgrantId.toString
    version := 0
    grantSeriesId := draft.grantSeriesId.toString
    revision := draft.revision.get
    supersedes := draft.supersedes.map PrefixedUuid.toString
    supersessionPolicy
    issuerAuthority := draft.issuerAuthority.asStr
    originAuthority := draft.originAuthority.asStr
    activeOwningAuthority := draft.activeOwningAuthority.asStr
    keyId := draft.keyId.value
    targetScope := draft.targetScope
    capabilities := draft.capabilities
    defaultAudienceScope := unlessEmpty draft.defaultAudienceScope
    resourceScope := draft.resourceScope
    globalConstraints := draft.globalTimeWindow.map fun time => ⟨some time⟩
    revocation := draft.revocation
    issuedAt := draft.issuedAt
    signature := ""
    issuerPrincipal := draft.issuerPrincipal
    interoperabilityProfile := draft.interoperabilityProfile }

/-- The document to be signed, of a consumed draft. It is written beside the other one as in the
source, and a lemma shows that both return the same. -/
def intoSignableDocument : TrustGrantDraft → Except TrustGrantError RawTrustGrantDocument
  | { trustgrantId, grantSeriesId, revision, supersedes, supersessionPolicy, issuerAuthority,
      originAuthority, activeOwningAuthority, keyId, targetScope, capabilities,
      defaultAudienceScope, resourceScope, globalTimeWindow, revocation, issuedAt,
      issuerPrincipal, interoperabilityProfile } => do
    let supersessionPolicy ← rawSupersessionPolicy supersessionPolicy
    return {
      trustgrantId := trustgrantId.toString
      version := 0
      grantSeriesId := grantSeriesId.toString
      revision := revision.get
      supersedes := supersedes.map PrefixedUuid.toString
      supersessionPolicy
      issuerAuthority := issuerAuthority.asStr
      originAuthority := originAuthority.asStr
      activeOwningAuthority := activeOwningAuthority.asStr
      keyId := keyId.value
      targetScope, capabilities
      defaultAudienceScope := unlessEmpty defaultAudienceScope
      resourceScope
      globalConstraints := globalTimeWindow.map fun time => ⟨some time⟩
      revocation, issuedAt
      signature := ""
      issuerPrincipal, interoperabilityProfile }

/-- The bytes to be signed. -/
def canonicalBytes (draft : TrustGrantDraft) : Except TrustGrantError CanonicalTrustGrantBytes := do
  let document ← draft.signableDocument
  canonicalizeTrustgrant document .rfc8785

/-- The signed document; a blank signature is refused. Whether the signature is one for these
bytes is not checked here. -/
def intoSignedDocument (draft : TrustGrantDraft) (signature : String) :
    Except TrustGrantError RawTrustGrantDocument := do
  Results.rejectIf (Text.isEmpty (Text.trim signature) = true) (.emptyStringField "signature")
  let document ← draft.intoSignableDocument
  return { document with signature }

end TrustGrantDraft

/-- A call that refines a draft. The arguments are those of the method of this name. -/
inductive DraftCall where
  | withLineage (grantSeriesId : GrantSeriesId) (revision : GrantRevision)
      (supersedes : Option TrustGrantId) (supersessionPolicy : SupersessionPolicy)
  | withDefaultAudienceScope (audienceScope : List RawAudienceEntry)
  | withGlobalTimeWindow (timeWindow : RawTimeWindow)
  | withRevocation (revocation : RawRevocation)
  | withIssuerPrincipal (issuerPrincipal : RawPrincipal)
  | withInteroperabilityProfile (interoperabilityProfile : InteroperabilityProfile)

/-- What a call returns. A refused call returns an error and no draft. -/
def DraftCall.run (draft : TrustGrantDraft) : DraftCall → Except TrustGrantError TrustGrantDraft
  | .withLineage grantSeriesId revision supersedes supersessionPolicy =>
    draft.withLineage grantSeriesId revision supersedes supersessionPolicy
  | .withDefaultAudienceScope audienceScope => .ok (draft.withDefaultAudienceScope audienceScope)
  | .withGlobalTimeWindow timeWindow => draft.withGlobalTimeWindow timeWindow
  | .withRevocation revocation => .ok (draft.withRevocation revocation)
  | .withIssuerPrincipal issuerPrincipal => .ok (draft.withIssuerPrincipal issuerPrincipal)
  | .withInteroperabilityProfile profile => .ok (draft.withInteroperabilityProfile profile)

/-- The drafts that successful calls lead to. So a fact about every draft is proved by induction
on the calls. -/
inductive Drafted (mapping : Text.CaseMapping) : TrustGrantDraft → Prop
  | new {trustgrantId : TrustGrantId} {grantSeriesId : GrantSeriesId}
      {authorities : TrustGrantDraftAuthorities} {keyId : String} {targetScope : RawScope}
      {capabilities : RawCapabilities} {resourceScope : RawResourceScope} {issuedAt : DateTime}
      {draft : TrustGrantDraft} (made : authorities.Made mapping)
      (created : TrustGrantDraft.new trustgrantId grantSeriesId authorities keyId targetScope
        capabilities resourceScope issuedAt = .ok draft) : Drafted mapping draft
  | call {draft refined : TrustGrantDraft} (earlier : Drafted mapping draft) (call : DraftCall)
      (succeeded : call.run draft = .ok refined) : Drafted mapping refined

/-- The lineage of a draft. -/
def TrustGrantDraft.lineage (draft : TrustGrantDraft) : GrantLineage :=
  ⟨draft.trustgrantId, draft.grantSeriesId, draft.revision, draft.supersedes,
    draft.supersessionPolicy⟩

/-- What the calls keep: a lineage that can be published, lower-cased authorities, and a window
that is not inverted. -/
structure DraftInvariant (mapping : Text.CaseMapping) (draft : TrustGrantDraft) : Prop where
  lineage : LineageInvariant draft.lineage
  issuer : draft.issuerAuthority.Lowercased mapping
  origin : draft.originAuthority.Lowercased mapping
  owner : draft.activeOwningAuthority.Lowercased mapping
  window : ∀ window ∈ draft.globalTimeWindow, window.notBefore ≤ window.notAfter

variable {mapping : Text.CaseMapping}

/-- Authorities that the constructors returned are lower-cased, so writing and reading them
changes nothing. -/
theorem lowercased_of_made (authorities : TrustGrantDraftAuthorities)
    (made : authorities.Made mapping) :
    authorities.issuerAuthority.Lowercased mapping ∧
      authorities.originAuthority.Lowercased mapping ∧
      authorities.activeOwningAuthority.Lowercased mapping := by
  cases made with
  | selfOwned authority accepted =>
    obtain ⟨only, named, returned⟩ := (Results.bind_ok_iff _ _ _).mp accepted
    cases (Results.pure_ok_iff _ _).mp returned
    have lowercased := AuthorityId.lowercased_of_new _ _ _ named
    exact ⟨lowercased, lowercased, lowercased⟩
  | new issuerAuthority originAuthority activeOwningAuthority accepted =>
    obtain ⟨issuer, isIssuer, accepted⟩ := (Results.bind_ok_iff _ _ _).mp accepted
    obtain ⟨origin, isOrigin, accepted⟩ := (Results.bind_ok_iff _ _ _).mp accepted
    obtain ⟨owner, isOwner, returned⟩ := (Results.bind_ok_iff _ _ _).mp accepted
    cases (Results.pure_ok_iff _ _).mp returned
    exact ⟨AuthorityId.lowercased_of_new _ _ _ isIssuer,
      AuthorityId.lowercased_of_new _ _ _ isOrigin, AuthorityId.lowercased_of_new _ _ _ isOwner⟩

/-- Every call keeps the invariant. The cases are the calls of the builder; each touches one
field and establishes its part of the invariant. -/
theorem DraftInvariant.call {draft refined : TrustGrantDraft}
    (invariant : DraftInvariant mapping draft) (call : DraftCall)
    (succeeded : call.run draft = .ok refined) : DraftInvariant mapping refined := by
  cases call with
  | withLineage grantSeriesId revision supersedes supersessionPolicy =>
    obtain ⟨⟨⟩, wired, succeeded⟩ := (Results.bind_ok_iff _ _ _).mp succeeded
    obtain ⟨⟨⟩, first, succeeded⟩ := (Results.bind_ok_iff _ _ _).mp succeeded
    obtain ⟨⟨⟩, other, succeeded⟩ := (Results.bind_ok_iff _ _ _).mp succeeded
    cases (Results.pure_ok_iff _ _).mp succeeded
    rw [Results.reject_if_ok_iff] at wired first other
    refine { invariant with lineage := ⟨fun isFirst => ?_, other, wired⟩ }
    exact Option.not_isSome_iff_eq_none.mp fun superseded => first ⟨isFirst, superseded⟩
  | withDefaultAudienceScope audienceScope =>
    cases succeeded
    exact { invariant with }
  | withGlobalTimeWindow timeWindow =>
    obtain ⟨⟨⟩, ordered, succeeded⟩ := (Results.bind_ok_iff _ _ _).mp succeeded
    cases (Results.pure_ok_iff _ _).mp succeeded
    rw [Results.reject_if_ok_iff, gt_iff_lt, not_lt] at ordered
    refine { invariant with window := ?_ }
    rintro window ⟨⟩
    exact ordered
  | withRevocation revocation =>
    cases succeeded
    exact { invariant with }
  | withIssuerPrincipal issuerPrincipal =>
    cases succeeded
    exact { invariant with }
  | withInteroperabilityProfile interoperabilityProfile =>
    cases succeeded
    exact { invariant with }

/-- So every draft satisfies it. The induction is on the calls that led to the draft. -/
theorem Drafted.invariant {draft : TrustGrantDraft} (drafted : Drafted mapping draft) :
    DraftInvariant mapping draft := by
  induction drafted with
  | new made created =>
    obtain ⟨issuer, origin, owner⟩ := lowercased_of_made _ made
    obtain ⟨revision, isFirst, created⟩ := (Results.bind_ok_iff _ _ _).mp created
    obtain ⟨keyId, -, created⟩ := (Results.bind_ok_iff _ _ _).mp created
    cases (Results.pure_ok_iff _ _).mp created
    refine ⟨⟨fun _ => rfl, ?_, ?_⟩, issuer, origin, owner, ?_⟩
    · rintro ⟨⟩
    · rintro ⟨⟩
    · rintro window ⟨⟩
  | call earlier call succeeded inductionHypothesis => exact inductionHypothesis.call call succeeded

end TrustGrant
