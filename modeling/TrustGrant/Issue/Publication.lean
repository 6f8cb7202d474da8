import TrustGrant.Issue.Agreement
import TrustGrant.Ownership.LinearHistory
import TrustGrant.Verify.Rivals
import TrustGrant.Verify.Soundness
import TrustGrant.Verify.WrittenDocuments

/-!
# From a draft to a verified grant

An issuer drafts a grant about its own resources, signs the canonical bytes of the draft,
writes the signed document as JSON and hands the text out. Whoever holds a proof bundle verifies
the text. The text is accepted exactly when the parts that the issuer supplied are valid and the
bundle vouches for the draft: it knows the signer, whose key is active and whose signature is
verified over the bytes of the draft, and for a revocable grant it has current evidence. The
verified grant then says what the draft said.

The result is an equivalence between acceptance of the text and conditions on the draft and
the bundle. Both directions go through the same stages of the verification, each of which
has been inverted before.
-/

namespace TrustGrant

open Rust Rust.Serde Library Limits

variable {mapping : Text.CaseMapping} {verifier : SignatureVerifier}
  {bundle : TrustGrantProofBundle} {context : VerificationContext}

/-- A key that is found has the identifier it was searched for. -/
theorem key_of_found (keys : List AuthorityKeyRecord) (keyId : KeyId) (record : AuthorityKeyRecord)
    (found : findKey keys keyId = .ok record) : record.keyId = keyId := by
  rw [findKey, Results.ok_or_ok_iff] at found
  have matching := List.find?_some found
  exact of_decide_eq_true matching

/-- The signer that a bundle resolves is the one that was asked for. With a principal it is found
among the delegated keys, without one among those of the authority. -/
theorem signer_of_bundle (authority : AuthorityId) (keyId : KeyId)
    (principal : Option ValidatedPrincipal) (signerBinding : ResolvedSignerBinding)
    (resolved : bundle.resolveSignerBinding authority keyId principal context =
      .ok signerBinding) :
    signerBinding.issuerAuthority = authority ∧ signerBinding.keyRecord.keyId = keyId ∧
      samePrincipal signerBinding.delegatedPrincipal principal = true := by
  obtain ⟨discovery, -, remaining⟩ := (Results.bind_ok_iff _ _ _).mp resolved
  cases principal with
  | none =>
    obtain ⟨⟨⟩, named, remaining⟩ := (Results.bind_ok_iff _ _ _).mp remaining
    obtain ⟨record, found, returned⟩ := (Results.bind_ok_iff _ _ _).mp remaining
    cases (Results.pure_ok_iff _ _).mp returned
    rw [Results.reject_if_ok_iff, ne_eq, not_not] at named
    exact ⟨named, key_of_found _ _ _ found, rfl⟩
  | some principal =>
    obtain ⟨⟨⟩, -, remaining⟩ := (Results.bind_ok_iff _ _ _).mp remaining
    obtain ⟨delegated, -, remaining⟩ := (Results.bind_ok_iff _ _ _).mp remaining
    obtain ⟨⟨⟩, named, remaining⟩ := (Results.bind_ok_iff _ _ _).mp remaining
    obtain ⟨⟨⟩, samePrincipals, remaining⟩ := (Results.bind_ok_iff _ _ _).mp remaining
    obtain ⟨record, found, returned⟩ := (Results.bind_ok_iff _ _ _).mp remaining
    cases (Results.pure_ok_iff _ _).mp returned
    rw [Results.reject_if_ok_iff, ne_eq, not_not] at named
    rw [Results.reject_if_ok_iff, not_or, ne_eq, not_not, ne_eq, not_not] at samePrincipals
    refine ⟨named, key_of_found _ _ _ found, ?_⟩
    simp [samePrincipal, samePrincipals.1, samePrincipals.2]

/-- The signature of a validated document is the trimmed one. A blank one is refused. -/
theorem validated_signature (raw : RawTrustGrantDocument) (document : ValidatedTrustGrantDocument)
    (accepted : ValidatedTrustGrantDocument.tryFrom mapping raw = .ok document) :
    document.signature = Text.trim raw.signature := by
  simp only [ValidatedTrustGrantDocument.tryFrom, Results.bind_ok_iff,
    Results.pure_ok_iff] at accepted
  obtain ⟨-, -, _, -, _, -, _, -, _, -, -, -, -, -, _, -, _, -, _, -, _, -, signature, signed, _,
    -, _, -, _, -, _, -, _, -, rfl⟩ := accepted
  obtain ⟨trimmed, normalized, returned⟩ := (Results.bind_ok_iff _ _ _).mp signed
  cases (Results.pure_ok_iff _ _).mp returned
  exact ((normalize_non_empty_ok_iff _ _ _).mp normalized).1

/-- A bundle vouches for a signed draft: it knows the signer, whose key is active and whose
signature is verified over the bytes of the draft, and has current evidence for a revocable
grant. -/
structure VouchedFor (verifier : SignatureVerifier) (bundle : TrustGrantProofBundle)
    (context : VerificationContext) (draft : TrustGrantDraft) (signature : String) : Prop where
  signer : ∃ principal signerBinding bytes,
    draft.issuerPrincipal.mapM ValidatedPrincipal.tryFrom = .ok principal ∧
    bundle.resolveSignerBinding draft.issuerAuthority draft.keyId principal context =
      .ok signerBinding ∧
    signerBinding.keyRecord.isActiveAt context.verifiedAt = true ∧
    signerBinding.signatureProfile.canonicalization.value =
      CanonicalizationProfile.rfc8785.discoveryName ∧
    draft.canonicalBytes = .ok ⟨bytes⟩ ∧
    verifier ⟨bytes, .rfc8785, signerBinding, Text.trim signature⟩ = .ok ()
  evidence : (∃ policy ∈ draft.revocation, policy.revocable = true) →
    ∃ proof record, bundle.revocationProofs.lookup draft.trustgrantId = some proof ∧
      proof.toRecordFor draft.trustgrantId = .ok record ∧
      context.verifiedAt ≤ record.freshUntil ∧ SufficesFor record context.posture

/-- A grant is revocable when its draft is. The policy of the document is the one of the draft,
as it was validated. -/
theorem revocable_of_draft (draft : TrustGrantDraft) (document : ValidatedTrustGrantDocument)
    (same : SaysSame draft document) :
    requiresRevocationCheck document = true ↔
      ∃ policy ∈ draft.revocation, policy.revocable = true := by
  rw [requires_revocation_check_iff, same.revocation]
  cases draft.revocation with
  | none => simp
  | some policy => simp [ValidatedRevocation.fromRaw]

/-- A record is acceptable when it is fresh and suffices for the posture. One direction is what
was shown of acceptable evidence, the other one goes through the postures. -/
theorem acceptable_iff (metadata : VerificationMetadata) (record : RevocationRecord) :
    RevocationAcceptable metadata record ↔
      metadata.verifiedAt ≤ record.freshUntil ∧ SufficesFor record metadata.posture := by
  constructor
  · intro acceptable
    exact ⟨of_decide_eq_true acceptable.fresh, suffices_of_acceptable acceptable⟩
  · rintro ⟨fresh, sufficient⟩
    refine ⟨decide_eq_true fresh, ?_, ?_⟩
    · cases posture : metadata.posture with
      | online => rfl
      | cached =>
        rw [posture] at sufficient
        exact sufficient.1
      | offline =>
        rw [posture] at sufficient
        exact sufficient.1
    · cases posture : metadata.posture with
      | online =>
        rw [posture] at sufficient
        exact decide_eq_true sufficient
      | cached =>
        rw [posture] at sufficient
        exact decide_eq_true sufficient.2
      | offline =>
        rw [posture] at sufficient
        exact decide_eq_true sufficient.2

/-- The revocation stages, from resolution to the comparison with the posture, pass exactly when
a revocable grant has current evidence in the bundle. -/
theorem revocation_stages_iff (document : ValidatedTrustGrantDocument)
    (signerBinding : ResolvedSignerBinding) (ownership : OwnershipVerificationRecord) :
    (∃ revocation,
      resolveRevocation document bundle.resolveRevocationRecord signerBinding context =
        .ok revocation ∧
      requiresRevocationCheck document = revocation.checkedRecord.isSome ∧
      ∀ record ∈ revocation.checkedRecord, RevocationAcceptable
        ⟨context.verifiedAt, context.posture, signerBinding, ownership, revocation⟩ record) ↔
    (requiresRevocationCheck document = true →
      ∃ proof record, bundle.revocationProofs.lookup document.lineage.trustgrantId = some proof ∧
        proof.toRecordFor document.lineage.trustgrantId = .ok record ∧
        context.verifiedAt ≤ record.freshUntil ∧ SufficesFor record context.posture) := by
  unfold resolveRevocation
  by_cases revocable : requiresRevocationCheck document = true
  · simp only [revocable, if_true, true_imp_iff]
    constructor
    · rintro ⟨revocation, resolved, -, acceptable⟩
      obtain ⟨record, answered, returned⟩ := (Results.bind_ok_iff _ _ _).mp resolved
      obtain ⟨proof, present, recorded⟩ := (Results.bind_ok_iff _ _ _).mp answered
      cases (Results.pure_ok_iff _ _).mp returned
      exact ⟨proof, record, (Results.ok_or_ok_iff _ _ _).mp present, recorded,
        (acceptable_iff _ record).mp (acceptable record rfl)⟩
    · rintro ⟨proof, record, present, recorded, current⟩
      have answered : bundle.resolveRevocationRecord document signerBinding context =
          .ok record :=
        (Results.bind_ok_iff _ _ _).mpr ⟨proof, (Results.ok_or_ok_iff _ _ _).mpr present, recorded⟩
      refine ⟨.checked record, (Results.bind_ok_iff _ _ _).mpr ⟨record, answered, rfl⟩, rfl, ?_⟩
      rintro other ⟨⟩
      exact (acceptable_iff _ record).mpr current
  · simp only [revocable, Bool.false_eq_true, if_false, false_imp_iff, iff_true]
    refine ⟨.nonRevocable, rfl, rfl, ?_⟩
    rintro record ⟨⟩

/-- What a signed draft is, and the bytes that were signed. It is stated once, since both
directions of the result ask for all of it. -/
structure SignedDraft (draft : TrustGrantDraft) (signature : String)
    (signed : RawTrustGrantDocument) : Prop where
  signable : ∃ signable, draft.signableDocument = .ok signable ∧
    { signable with signature } = signed
  present : Text.isEmpty (Text.trim signature) = false
  bytes : draft.canonicalBytes = .ok ⟨signedBytes signed⟩
  signature : signed.signature = signature
  principal : signed.issuerPrincipal = draft.issuerPrincipal

/-- What a signed draft is made from, as named fields. A signature that is blank is refused, and
one that is not is set as it is. -/
theorem signed_draft (draft : TrustGrantDraft) (signature : String)
    (signed : RawTrustGrantDocument) (isSigned : draft.intoSignedDocument signature = .ok signed) :
    SignedDraft draft signature signed := by
  obtain ⟨⟨⟩, present, remaining⟩ := (Results.bind_ok_iff _ _ _).mp isSigned
  obtain ⟨signable, written, returned⟩ := (Results.bind_ok_iff _ _ _).mp remaining
  rw [into_signable_document_eq] at written
  obtain rfl := (Results.pure_ok_iff _ _).mp returned
  rw [Results.reject_if_ok_iff, Bool.not_eq_true] at present
  refine ⟨⟨signable, written, rfl⟩, present, ?_, rfl, ?_⟩
  · rw [TrustGrantDraft.canonicalBytes, written]
    rfl
  · obtain ⟨policy, -, made⟩ := (Results.bind_ok_iff _ _ _).mp written
    cases (Results.pure_ok_iff _ _).mp made
    rfl

/-- A grant that keeps its owner needs no chain. When none is held under its identifier, the
stages of the transfer all succeed with nothing to check. -/
theorem static_ownership_iff (document : ValidatedTrustGrantDocument)
    (rawTransitions : List RawOwnershipTransitionDocument)
    (transitions : List OwnershipTransitionRecord) (ownership : OwnershipVerificationRecord)
    (selfOwned : document.ownershipAuthorityState.originAuthority =
      document.ownershipAuthorityState.activeOwningAuthority)
    (noChain : bundle.ownershipTransitionChains.lookup document.lineage.trustgrantId = none) :
    bundle.resolveOwnershipTransitionChain document context = .ok rawTransitions ∧
      verifyTransitions mapping verifier bundle.resolveSignerBinding context rawTransitions =
        .ok transitions ∧
      verifyDocumentOwnership document transitions context.verifiedAt = .ok ownership ↔
    rawTransitions = [] ∧ transitions = [] ∧ ownership =
      ⟨document.ownershipAuthorityState.originAuthority,
        document.ownershipAuthorityState.activeOwningAuthority, context.verifiedAt, .staticOwner,
        none⟩ := by
  have supplied : bundle.resolveOwnershipTransitionChain document context = .ok [] := by
    simp only [TrustGrantProofBundle.resolveOwnershipTransitionChain, noChain, Option.getD_none]
    rfl
  have established : verifyDocumentOwnership document [] context.verifiedAt = .ok ownership ↔ _ :=
    verify_document_ownership_ok_iff [] ownership
  simp only [true_and, selfOwned, List.getLast?_nil, Option.mem_def, reduceCtorEq, false_and,
    exists_false, or_false] at established
  constructor
  · rintro ⟨isSupplied, verified, accepted⟩
    obtain rfl := Except.ok.inj (supplied.symm.trans isSupplied)
    obtain rfl : [] = transitions := (Results.pure_ok_iff _ _).mp verified
    refine ⟨rfl, rfl, ?_⟩
    rw [selfOwned]
    exact established.mp accepted
  · rintro ⟨rfl, rfl, rfl⟩
    refine ⟨supplied, rfl, ?_⟩
    rw [selfOwned] at established ⊢
    exact established.mpr rfl

/-- What the holder of a bundle learns from the text of a signed draft. The signer and the
ownership come from the bundle, the rest from the draft. -/
structure LearnedFrom (draft : TrustGrantDraft) (context : VerificationContext)
    (artifacts : VerificationArtifacts) : Prop where
  grantSays : ∃ document, SaysSame draft document ∧
    artifacts.verifiedGrant.document = .ofValidated document
  bytes : draft.canonicalBytes = .ok artifacts.canonicalBytes
  verifiedAt : artifacts.verifiedGrant.metadata.verifiedAt = context.verifiedAt
  owner : artifacts.verifiedGrant.metadata.ownership.activeOwningAuthority =
    draft.activeOwningAuthority

section Signed

variable {draft : TrustGrantDraft} {signature : String} {signed : RawTrustGrantDocument}

/-- A validated signed draft had valid parts and says what the draft says. -/
theorem says_same_of_signed (invariant : DraftInvariant mapping draft)
    (isDraft : SignedDraft draft signature signed) (document : ValidatedTrustGrantDocument)
    (validated : ValidatedTrustGrantDocument.tryFrom mapping signed = .ok document) :
    SuppliedValid mapping draft ∧ SaysSame draft document := by
  obtain ⟨signable, written, rfl⟩ := isDraft.signable
  exact says_same_of_accepted invariant written signature document validated

/-- A signed draft validates when the parts that the issuer supplied are valid. The rest was
checked while the draft was built. -/
theorem validated_of_supplied (invariant : DraftInvariant mapping draft)
    (isDraft : SignedDraft draft signature signed) (valid : SuppliedValid mapping draft) :
    ∃ document, ValidatedTrustGrantDocument.tryFrom mapping signed = .ok document := by
  obtain ⟨signable, written, rfl⟩ := isDraft.signable
  exact accepted_of_supplied invariant valid written signature isDraft.present

/-- An accepted signed draft was vouched for, and the verified grant says what it said. The
stages of the verification are inverted, and each gives one part of the conclusion. -/
theorem vouched_of_accepted (invariant : DraftInvariant mapping draft)
    (isDraft : SignedDraft draft signature signed) (artifacts : VerificationArtifacts)
    (accepted : verifyRawDocumentWithSources mapping signed verifier bundle.asSources context =
      .ok artifacts) :
    SuppliedValid mapping draft ∧ VouchedFor verifier bundle context draft signature ∧
      LearnedFrom draft context artifacts := by
  obtain ⟨document, signerBinding, rawTransitions, transitions, ownership, revocation, validated,
    resolved, -, -, -, checked, lastStage⟩ := verify_raw_document_with_sources_ok_iff.mp accepted
  obtain ⟨valid, same⟩ := says_same_of_signed invariant isDraft document validated
  obtain ⟨matched, state, acceptable, verifies, rfl⟩ := (verify_impl_ok_iff _ _ _ _ _).mp lastStage
  have named := (validated_from mapping signed document validated).issuerPrincipal
  have evidence := (revocation_stages_iff document signerBinding ownership).mp
    ⟨revocation, checked, state, acceptable⟩
  have signatureSame := validated_signature signed document validated
  rw [isDraft.signature] at signatureSame
  rw [isDraft.principal] at named
  rw [revocable_of_draft draft document same, same.lineage] at evidence
  rw [signatureSame] at verifies
  rw [same.issuer, same.keyId] at resolved
  have vouched : VouchedFor verifier bundle context draft signature := {
    signer := ⟨document.issuerPrincipal, signerBinding, signedBytes signed, named, resolved,
      matched.active, matched.canonicalization, isDraft.bytes, verifies⟩
    evidence := evidence }
  refine ⟨valid, vouched, ⟨document, same, rfl⟩, isDraft.bytes, rfl, ?_⟩
  exact matched.owner.trans (congrArg OwnershipAuthorityState.activeOwningAuthority same.ownership)

/-- A signed draft about the issuer's own resources that is vouched for is accepted. It goes
through the same stages in the other direction. -/
theorem accepted_of_vouched (invariant : DraftInvariant mapping draft)
    (isDraft : SignedDraft draft signature signed)
    (selfOwned : draft.originAuthority = draft.activeOwningAuthority)
    (noChain : bundle.ownershipTransitionChains.lookup draft.trustgrantId = none)
    (valid : SuppliedValid mapping draft)
    (vouched : VouchedFor verifier bundle context draft signature) :
    ∃ artifacts, verifyRawDocumentWithSources mapping signed verifier bundle.asSources context =
      .ok artifacts := by
  obtain ⟨document, validated⟩ := validated_of_supplied invariant isDraft valid
  obtain ⟨-, same⟩ := says_same_of_signed invariant isDraft document validated
  obtain ⟨principal, signerBinding, bytes, named, resolved, active, profile, isBytes, verifies⟩ :=
    vouched.signer
  obtain rfl := CanonicalTrustGrantBytes.mk.inj
    (Except.ok.inj (isDraft.bytes.symm.trans isBytes))
  have fromDocument := (validated_from mapping signed document validated).issuerPrincipal
  rw [isDraft.principal] at fromDocument
  obtain rfl := Except.ok.inj (named.symm.trans fromDocument)
  obtain ⟨ofIssuer, ofKey, ofPrincipal⟩ := signer_of_bundle _ _ _ _ resolved
  rw [← same.issuer, ← same.keyId] at resolved
  have owned : document.ownershipAuthorityState.originAuthority =
      document.ownershipAuthorityState.activeOwningAuthority := by
    rw [same.ownership]
    exact selfOwned
  have without : bundle.ownershipTransitionChains.lookup document.lineage.trustgrantId = none := by
    rw [same.lineage]
    exact noChain
  obtain ⟨supplied, verified, established⟩ := (@static_ownership_iff mapping verifier bundle context
    document [] [] _ owned without).mpr ⟨rfl, rfl, rfl⟩
  have sameId : document.lineage.trustgrantId = draft.trustgrantId :=
    congrArg GrantLineage.trustgrantId same.lineage
  have evidence := vouched.evidence
  rw [← revocable_of_draft draft document same, ← sameId] at evidence
  obtain ⟨revocation, checked, state, acceptable⟩ :=
    (revocation_stages_iff document signerBinding _).mpr evidence
  have signatureSame := validated_signature signed document validated
  rw [isDraft.signature] at signatureSame
  rw [← signatureSame] at verifies
  refine ⟨_, verify_raw_document_with_sources_ok_iff.mpr ⟨document, signerBinding, [], [], _,
    revocation, validated, resolved, supplied, verified, established, checked,
    (verify_impl_ok_iff _ _ _ _ _).mpr ⟨?_, state, acceptable, verifies, rfl⟩⟩⟩
  exact ⟨ofIssuer.trans same.issuer.symm, ofKey.trans same.keyId.symm, profile, active,
    ofPrincipal, rfl, rfl⟩

end Signed

/-- From the draft to the verified grant: the text of a signed draft about the issuer's own
resources is accepted exactly when it is within the limit, the parts that the issuer supplied are
valid and the bundle vouches for the draft. The verified grant then says what the draft said, and
its canonical bytes are those that the draft was signed over.

Proof: the text is read back as the signed document, so acceptance is that of this document
within the limit. The stages of its verification are then followed in both directions. A chain
held under the draft's identifier would be verified in place of static ownership, which is why
there must be none. -/
theorem published_accepted_iff (mapping : Text.CaseMapping) (verifier : SignatureVerifier)
    (bundle : TrustGrantProofBundle) (context : VerificationContext)
    (readDateTime : String → Option DateTime) (parse : String → Option JsonTree)
    (draft : TrustGrantDraft) (drafted : Drafted mapping draft)
    (selfOwned : draft.originAuthority = draft.activeOwningAuthority)
    (noChain : bundle.ownershipTransitionChains.lookup draft.trustgrantId = none)
    (signature : String) (signed : RawTrustGrantDocument)
    (isSigned : draft.intoSignedDocument signature = .ok signed)
    (textRead : TextReadBack readDateTime parse signed.toValue signed.timeStamps) :
    ((∃ artifacts, verifyJsonStrWithBundle mapping
        (RawTrustGrantDocument.fromStr readDateTime parse) signed.toJsonString verifier bundle
          context = .ok artifacts) ↔
      Text.len signed.toJsonString ≤ maxTrustgrantJsonBytes ∧ SuppliedValid mapping draft ∧
        VouchedFor verifier bundle context draft signature) ∧
    ∀ artifacts, verifyJsonStrWithBundle mapping
        (RawTrustGrantDocument.fromStr readDateTime parse) signed.toJsonString verifier bundle
          context = .ok artifacts →
      LearnedFrom draft context artifacts := by
  have isDraft := signed_draft draft signature signed isSigned
  have invariant := drafted.invariant
  have read : ∀ artifacts, verifyJsonStrWithBundle mapping
      (RawTrustGrantDocument.fromStr readDateTime parse) signed.toJsonString verifier bundle
        context = .ok artifacts ↔
      Text.len signed.toJsonString ≤ maxTrustgrantJsonBytes ∧
        verifyRawDocumentWithSources mapping signed verifier bundle.asSources context =
          .ok artifacts := by
    intro artifacts
    rw [verifyJsonStrWithBundle, verifyJsonStrWithSources, Results.bind_ok_iff]
    simp only [parse_json_str_ok_iff, grant_text_read signed textRead, Option.some.injEq]
    constructor
    · rintro ⟨raw, ⟨short, rfl⟩, accepted⟩
      exact ⟨short, accepted⟩
    · rintro ⟨short, accepted⟩
      exact ⟨signed, ⟨short, rfl⟩, accepted⟩
  simp only [read]
  refine ⟨⟨?_, ?_⟩, ?_⟩
  · rintro ⟨artifacts, short, accepted⟩
    obtain ⟨valid, vouched, -⟩ := vouched_of_accepted invariant isDraft artifacts accepted
    exact ⟨short, valid, vouched⟩
  · rintro ⟨short, valid, vouched⟩
    obtain ⟨artifacts, accepted⟩ :=
      accepted_of_vouched invariant isDraft selfOwned noChain valid vouched
    exact ⟨artifacts, short, accepted⟩
  · rintro artifacts ⟨-, accepted⟩
    exact (vouched_of_accepted invariant isDraft artifacts accepted).2.2

/-! ## A small publication for a closed instance -/

/-- The signed small draft. -/
def smallSignedDraft : RawTrustGrantDocument :=
  Results.valueOf (smallDraft.intoSignedDocument "s") (by decide +kernel)

/-- The bundle holds the key of the issuer and the signature is accepted. The small draft is not
revocable, so no evidence is asked for. -/
theorem small_draft_vouched_for :
    VouchedFor smallVerifier smallBundleOfOne smallContext smallDraft "s" where
  signer := ⟨none, Results.valueOf (smallBundleOfOne.resolveSignerBinding smallDraft.issuerAuthority
      smallDraft.keyId none smallContext) (by decide +kernel), signedBytes smallSignedDraft,
    by decide +kernel, Results.value_of_eq _ _, by decide +kernel, by decide +kernel,
    (signed_draft smallDraft "s" smallSignedDraft (Results.value_of_eq _ _)).bytes, rfl⟩
  evidence := by
    rintro ⟨policy, listed, -⟩
    have without : smallDraft.revocation.isNone = true := by decide +kernel
    rw [Option.isNone_iff_eq_none.mp without] at listed
    cases listed

/-- The text of the signed small draft is accepted. The bundle holds no chain under its
identifier, as the theorem asks. -/
theorem small_draft_accepted :
    ∃ artifacts, verifyJsonStrWithBundle Text.asciiCaseMapping
      (RawTrustGrantDocument.fromStr readSmallInstant
        (readTreeText smallSignedDraft.toValue.toTree)) smallSignedDraft.toJsonString
      smallVerifier smallBundleOfOne smallContext = .ok artifacts := by
  have isSigned : smallDraft.intoSignedDocument "s" = .ok smallSignedDraft :=
    Results.value_of_eq _ _
  refine (published_accepted_iff Text.asciiCaseMapping smallVerifier smallBundleOfOne smallContext
    readSmallInstant _ smallDraft small_draft_drafted (by decide +kernel) (by decide +kernel) "s"
    smallSignedDraft isSigned ⟨read_tree_text _, ?_⟩).1.mpr ⟨?_, ?_, small_draft_vouched_for⟩
  · have stamps : ∀ time ∈ smallSignedDraft.timeStamps, time = smallInstant := by
      decide +kernel
    intro time listed
    rw [stamps time listed]
    exact small_stamp_read
  · exact (Text.len_of_list_le _).trans (by decide +kernel)
  · exact ⟨⟨_, Results.value_of_eq _ (by decide +kernel)⟩,
      ⟨_, Results.value_of_eq _ (by decide +kernel)⟩,
      ⟨_, Results.value_of_eq _ (by decide +kernel)⟩,
      ⟨_, Results.value_of_eq _ (by decide +kernel)⟩⟩

end TrustGrant
