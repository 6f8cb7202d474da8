import TrustGrant.Issue.Draft

/-!
# Issuer and verifier agree

What an issuer signs is what is published, and what is published is accepted whenever the
parts that the draft does not check itself are. What validation returns is then what the
draft says.

The drafts are those that any sequence of calls leads to. They keep an invariant under which
the signed document can be computed, and its validation is then one lemma for each part of a
document.
-/

namespace TrustGrant

open Rust Library

variable {mapping : Text.CaseMapping} {draft : TrustGrantDraft}

/-- The borrowing and the consuming construction agree. -/
theorem into_signable_document_eq (draft : TrustGrantDraft) :
    draft.intoSignableDocument = draft.signableDocument :=
  rfl

/-- The signature is no part of the canonical text. -/
theorem canonicalize_any_signature (rawDocument : RawTrustGrantDocument) (signature : String)
    (profile : CanonicalizationProfile) :
    canonicalizeTrustgrant { rawDocument with signature } profile =
      canonicalizeTrustgrant rawDocument profile := by
  cases profile
  rfl

/-- The parts that a draft keeps as they are supplied pass their validators. The other parts were
checked when they were supplied. -/
structure SuppliedValid (mapping : Text.CaseMapping) (draft : TrustGrantDraft) : Prop where
  targetScope : ∃ scope, validateScope "target_scope" draft.targetScope = .ok scope
  audienceScope : ∃ entries, validateAudienceEntries mapping "default_audience_scope"
    (unlessEmpty draft.defaultAudienceScope) = .ok entries
  resourceScope : ∃ types, validateResourceScope mapping draft.resourceScope = .ok types
  issuerPrincipal : ∃ principal,
    draft.issuerPrincipal.mapM ValidatedPrincipal.tryFrom = .ok principal

/-- A validated document says what the draft says. The fields are compared after validation, as
the draft keeps some of its parts as texts. -/
structure SaysSame (draft : TrustGrantDraft) (document : ValidatedTrustGrantDocument) : Prop where
  lineage : document.lineage = draft.lineage
  issuer : document.issuerAuthority = draft.issuerAuthority
  ownership : document.ownershipAuthorityState =
    ⟨draft.originAuthority, draft.activeOwningAuthority⟩
  keyId : document.keyId = draft.keyId
  timeWindow : (document.globalTimeWindow.map fun window => (window.notBefore, window.notAfter)) =
    draft.globalTimeWindow.map fun window => (window.notBefore, window.notAfter)
  issuedAt : document.issuedAt = draft.issuedAt
  revocation : document.revocation = draft.revocation.map ValidatedRevocation.fromRaw

/-- Every draft that satisfies the invariant can be written. -/
theorem signable_document_ok (invariant : DraftInvariant mapping draft) :
    ∃ signable, draft.signableDocument = .ok signable := by
  obtain ⟨policy, written, -⟩ := raw_policy_validated _ invariant.lineage.policy
  exact ⟨_, (Results.bind_ok_iff _ _ _).mpr ⟨policy, written, rfl⟩⟩

/-- A window of a draft that is not inverted is validated. The draft refuses inverted ones when
they are supplied. -/
theorem validate_draft_window (window : Option RawTimeWindow)
    (ordered : ∀ time ∈ window, time.notBefore ≤ time.notAfter) :
    ∃ validated,
      validateGlobalConstraints (window.map fun time => ⟨some time⟩) = .ok validated := by
  cases window with
  | none => exact ⟨none, rfl⟩
  | some time =>
    refine ⟨some ⟨time.notBefore, time.notAfter, ordered time rfl⟩, ?_⟩
    show (some <$> ValidatedTimeWindow.new time.notBefore time.notAfter) = _
    rw [ValidatedTimeWindow.new, dif_pos (ordered time rfl)]
    rfl

/-- What a window of a draft is validated as. Its two ends are compared and not changed. -/
theorem draft_window_kept (window : Option RawTimeWindow) (validated : Option ValidatedTimeWindow)
    (made : validateGlobalConstraints (window.map fun time => ⟨some time⟩) = .ok validated) :
    (validated.map fun time => (time.notBefore, time.notAfter)) =
      window.map fun time => (time.notBefore, time.notAfter) := by
  cases window with
  | none =>
    cases made
    rfl
  | some time =>
    change (some <$> ValidatedTimeWindow.new time.notBefore time.notAfter) = _ at made
    unfold ValidatedTimeWindow.new at made
    split at made
    · cases made
      rfl
    · cases made

/-- The signed document of a draft whose supplied parts are valid is accepted. The builder made
sure of the other parts, so that each of them is validated back. -/
theorem accepted_of_supplied (invariant : DraftInvariant mapping draft)
    (supplied : SuppliedValid mapping draft) {signable : RawTrustGrantDocument}
    (written : draft.signableDocument = .ok signable) (signature : String)
    (present : Text.isEmpty (Text.trim signature) = false) :
    ∃ document, ValidatedTrustGrantDocument.tryFrom mapping { signable with signature } =
      .ok document := by
  obtain ⟨policy, isPolicy, returned⟩ := (Results.bind_ok_iff _ _ _).mp written
  cases (Results.pure_ok_iff _ _).mp returned
  obtain ⟨raw, isRaw, validated⟩ := raw_policy_validated _ invariant.lineage.policy
  cases isPolicy.symm.trans isRaw
  obtain ⟨targetScope, ranged⟩ := supplied.targetScope
  obtain ⟨audienceScope, named⟩ := supplied.audienceScope
  obtain ⟨resourceScope, typed⟩ := supplied.resourceScope
  obtain ⟨issuerPrincipal, bound⟩ := supplied.issuerPrincipal
  obtain ⟨window, ordered⟩ := validate_draft_window _ invariant.window
  have signed : normalizeNonEmptyString "signature" signature none = .ok (Text.trim signature) :=
    (Results.bind_ok_iff _ _ _).mpr
      ⟨_, (normalize_non_empty_ok_iff _ _ _).mpr ⟨rfl, present⟩, rfl⟩
  refine ⟨{
    lineage := draft.lineage
    issuerAuthority := draft.issuerAuthority
    ownershipAuthorityState := ⟨draft.originAuthority, draft.activeOwningAuthority⟩
    keyId := draft.keyId
    targetScope
    capabilities := .fromRaw draft.capabilities
    defaultAudienceScope := audienceScope
    resourceScope
    globalTimeWindow := window
    revocation := draft.revocation.map .fromRaw
    issuedAt := draft.issuedAt
    signature := Text.trim signature
    issuerPrincipal
    interoperabilityProfile := draft.interoperabilityProfile },
    try_from_of_parts _ _ rfl ?_ invariant.lineage signed⟩
  exact {
    trustgrantId := PrefixedUuid.from_str_to_string (by decide) _
    grantSeriesId := PrefixedUuid.from_str_to_string (by decide) _
    revision := GrantRevision.new_of_get _
    supersedes := Results.map_option_inverse _ _ _ fun id _ =>
      PrefixedUuid.from_str_to_string (by decide) id
    supersessionPolicy := validated
    issuerAuthority := AuthorityId.new_of_value mapping _ invariant.issuer
    originAuthority := AuthorityId.new_of_value mapping _ invariant.origin
    activeOwningAuthority := AuthorityId.new_of_value mapping _ invariant.owner
    keyId := Token.new_of_value _
    targetScope := ranged
    capabilities := rfl
    defaultAudienceScope := named
    resourceScope := typed
    globalTimeWindow := ordered
    revocation := rfl
    issuedAt := rfl
    issuerPrincipal := bound
    interoperabilityProfile := rfl }

/-- An accepted signed document of a draft had valid supplied parts, and says what the draft
says. -/
theorem says_same_of_accepted (invariant : DraftInvariant mapping draft)
    {signable : RawTrustGrantDocument} (written : draft.signableDocument = .ok signable)
    (signature : String) (document : ValidatedTrustGrantDocument)
    (accepted : ValidatedTrustGrantDocument.tryFrom mapping { signable with signature } =
      .ok document) :
    SuppliedValid mapping draft ∧ SaysSame draft document := by
  obtain ⟨policy, isPolicy, returned⟩ := (Results.bind_ok_iff _ _ _).mp written
  cases (Results.pure_ok_iff _ _).mp returned
  obtain ⟨raw, isRaw, validated⟩ := raw_policy_validated _ invariant.lineage.policy
  cases isPolicy.symm.trans isRaw
  have made := validated_from mapping _ document accepted
  have supersedes : (draft.supersedes.map PrefixedUuid.toString).mapM TrustGrantId.fromStr =
      .ok draft.supersedes :=
    Results.map_option_inverse _ _ _ fun id _ => PrefixedUuid.from_str_to_string (by decide) id
  refine ⟨⟨⟨_, made.targetScope⟩, ⟨_, made.defaultAudienceScope⟩, ⟨_, made.resourceScope⟩,
    ⟨_, made.issuerPrincipal⟩⟩, ?_⟩
  exact {
    lineage := GrantLineage.ext
      (Except.ok.inj (made.trustgrantId.symm.trans
        (PrefixedUuid.from_str_to_string (by decide) draft.trustgrantId)))
      (Except.ok.inj (made.grantSeriesId.symm.trans
        (PrefixedUuid.from_str_to_string (by decide) draft.grantSeriesId)))
      (Except.ok.inj (made.revision.symm.trans (GrantRevision.new_of_get draft.revision)))
      (Except.ok.inj (made.supersedes.symm.trans supersedes))
      (made.supersessionPolicy.symm.trans validated)
    issuer := Except.ok.inj (made.issuerAuthority.symm.trans
      (AuthorityId.new_of_value mapping _ invariant.issuer))
    ownership := OwnershipAuthorityState.ext
      (Except.ok.inj (made.originAuthority.symm.trans
        (AuthorityId.new_of_value mapping _ invariant.origin)))
      (Except.ok.inj (made.activeOwningAuthority.symm.trans
        (AuthorityId.new_of_value mapping _ invariant.owner)))
    keyId := Except.ok.inj (made.keyId.symm.trans (Token.new_of_value draft.keyId))
    timeWindow := draft_window_kept _ _ made.globalTimeWindow
    issuedAt := made.issuedAt.symm
    revocation := made.revocation.symm }

/-- What signing a draft promises. It is about one signed document: that it is returned, what its
bytes are, when it is accepted and what it then says. -/
structure SigningAgrees (mapping : Text.CaseMapping) (draft : TrustGrantDraft)
    (signature : String) (signed : RawTrustGrantDocument) : Prop where
  signs : draft.intoSignedDocument signature = .ok signed
  signable : ∃ signable, draft.signableDocument = .ok signable ∧
    { signable with signature } = signed
  canonical : draft.canonicalBytes = canonicalizeTrustgrant signed .rfc8785
  accepted : (∃ document, ValidatedTrustGrantDocument.tryFrom mapping signed = .ok document) ↔
    SuppliedValid mapping draft
  saysSame : ∀ document, ValidatedTrustGrantDocument.tryFrom mapping signed = .ok document →
    SaysSame draft document

/-- Every draft that calls lead to is signed with every signature that is not blank, and the
issuer and the verifier agree on the signed document. The builder keeps an invariant, from which
the signed document is computed field by field; the signature is not among what is written, so
both sides see the same bytes. -/
theorem issuer_and_verifier_agree (drafted : Drafted mapping draft) (signature : String)
    (present : Text.isEmpty (Text.trim signature) = false) :
    ∃ signed, SigningAgrees mapping draft signature signed := by
  have invariant := drafted.invariant
  obtain ⟨signable, written⟩ := signable_document_ok invariant
  refine ⟨{ signable with signature }, ?_⟩
  exact {
    signs := by
      rw [TrustGrantDraft.intoSignedDocument, into_signable_document_eq, written, Results.rejectIf,
        if_neg (by simp [present])]
      rfl
    signable := ⟨signable, written, rfl⟩
    canonical := by
      rw [canonicalize_any_signature, TrustGrantDraft.canonicalBytes, written]
      rfl
    accepted := by
      constructor
      · rintro ⟨document, accepted⟩
        exact (says_same_of_accepted invariant written signature document accepted).1
      · exact fun supplied => accepted_of_supplied invariant supplied written signature present
    saysSame := fun document accepted =>
      (says_same_of_accepted invariant written signature document accepted).2 }

/-- Drafting a second revision. -/
def smallDrafting : Except TrustGrantError TrustGrantDraft := do
  let authorities ← TrustGrantDraftAuthorities.selfOwned Text.asciiCaseMapping "did:I"
  let first ← TrustGrantDraft.new ⟨⟨1⟩⟩ ⟨⟨2⟩⟩ authorities "k" ⟨true, none, none⟩ ⟨true, true⟩
    smallTransferred.resourceScope smallInstant
  let revision ← GrantRevision.new 2
  DraftCall.run first (.withLineage ⟨⟨3⟩⟩ revision (some ⟨⟨4⟩⟩) .supersedePrevious)

/-- The draft that the small calls of the builder return. -/
def smallDraft : TrustGrantDraft := Results.valueOf smallDrafting (by decide +kernel)

/-- It is reached by the constructor and successful calls. -/
theorem small_draft_drafted : Drafted Text.asciiCaseMapping smallDraft := by
  obtain ⟨authorities, made, remaining⟩ := (Results.bind_ok_iff _ _ _).mp
    (Results.value_of_eq smallDrafting (by decide +kernel))
  obtain ⟨first, created, remaining⟩ := (Results.bind_ok_iff _ _ _).mp remaining
  obtain ⟨revision, -, refined⟩ := (Results.bind_ok_iff _ _ _).mp remaining
  exact .call (.new (.selfOwned _ made) created) _ refined

/-- The small draft is signed and accepted. What was supplied to its builder validates, which is
what acceptance asks of a draft. -/
theorem small_draft_agrees :
    ∃ signed, SigningAgrees Text.asciiCaseMapping smallDraft "s" signed ∧
      ∃ document, ValidatedTrustGrantDocument.tryFrom Text.asciiCaseMapping signed =
        .ok document := by
  obtain ⟨signed, agrees⟩ := issuer_and_verifier_agree small_draft_drafted "s" (by decide)
  refine ⟨signed, agrees, agrees.accepted.mpr ?_⟩
  exact ⟨⟨_, Results.value_of_eq _ (by decide +kernel)⟩,
    ⟨_, Results.value_of_eq _ (by decide +kernel)⟩,
    ⟨_, Results.value_of_eq _ (by decide +kernel)⟩,
    ⟨_, Results.value_of_eq _ (by decide +kernel)⟩⟩

end TrustGrant
