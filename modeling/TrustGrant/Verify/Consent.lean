import TrustGrant.Ownership.LinearHistory
import TrustGrant.Verify.Acceptance

/-!
# Consent to transfers

A transition is verified only when both of its parties signed it. An accepted grant whose
owner is not the origin of its resources rests on a chain of transitions from the origin to
the owner, so every authority that ever gave the resources away agreed to it and every
authority that received them did too.

The result follows the chain hop by hop: what was verified for each transition, how the
chain leads from the origin to the owner, and that it has a transition at all when the two
differ.
-/

namespace TrustGrant

open Rust Library

variable {mapping : Text.CaseMapping} {rawDocument : RawTrustGrantDocument}
  {verifier : SignatureVerifier} {sources : VerificationSources} {context : VerificationContext}
  {artifacts : VerificationArtifacts}

/-- An authority signed some bytes: the verifier accepted the signature under a binding of
the authority itself, with the named key, active at the time of the verification. -/
def SignedBy (verifier : SignatureVerifier) (discoverySource : AuthorityDiscoverySource)
    (context : VerificationContext) (bytes : ByteArray) (authority : AuthorityId) (keyId : KeyId)
    (signature : String) : Prop :=
  ∃ signerBinding, discoverySource authority keyId none context = .ok signerBinding ∧
    signerBinding.issuerAuthority = authority ∧ signerBinding.keyRecord.keyId = keyId ∧
    signerBinding.keyRecord.isActiveAt context.verifiedAt = true ∧
    signerBinding.delegatedPrincipal = none ∧
    verifier ⟨bytes, .rfc8785, signerBinding, signature⟩ = .ok ()

/-- What validation makes of the parties, the keys and the times of a transition. It is what
consent speaks of, and the other fields are left out. -/
structure TransitionFrom (mapping : Text.CaseMapping) (raw : RawOwnershipTransitionDocument)
    (transition : ValidatedOwnershipTransitionDocument) : Prop where
  originAuthority : AuthorityId.new mapping raw.originAuthority =
    .ok transition.parties.originAuthority
  fromAuthority : AuthorityId.new mapping raw.fromAuthority =
    .ok transition.parties.predecessorAuthority
  toAuthority : AuthorityId.new mapping raw.toAuthority =
    .ok transition.parties.successorAuthority
  effectiveAt : raw.effectiveAt = transition.effectiveAt
  predecessorKeyId : KeyId.new raw.predecessorSignature.keyId =
    .ok transition.predecessorSignature.keyId
  predecessorSignature : normalizeNonEmpty "predecessor_signature"
    raw.predecessorSignature.signature = .ok transition.predecessorSignature.signature
  acceptedAt : raw.successorAcceptance.acceptedAt = transition.successorAcceptance.acceptedAt
  successorKeyId : KeyId.new raw.successorAcceptance.keyId =
    .ok transition.successorAcceptance.keyId
  successorSignature : normalizeNonEmpty "successor_acceptance.signature"
    raw.successorAcceptance.signature = .ok transition.successorAcceptance.signature

/-- Both parties of a transition consented to it: the predecessor signed the proposal and
the successor the acceptance, which is not in the future. -/
structure Consented (mapping : Text.CaseMapping) (verifier : SignatureVerifier)
    (discoverySource : AuthorityDiscoverySource) (context : VerificationContext)
    (raw : RawOwnershipTransitionDocument) (transition : ValidatedOwnershipTransitionDocument) :
    Prop where
  validates : ValidatedOwnershipTransitionDocument.tryFrom mapping raw = .ok transition
  made : TransitionFrom mapping raw transition
  accepted : raw.successorAcceptance.acceptedAt ≤ context.verifiedAt
  proposal : ∃ proposalBytes, canonicalizeTransitionProposal raw .rfc8785 = .ok proposalBytes ∧
    SignedBy verifier discoverySource context proposalBytes.bytes
      transition.parties.predecessorAuthority transition.predecessorSignature.keyId
      transition.predecessorSignature.signature
  acceptance : ∃ acceptanceBytes,
    canonicalizeTransitionAcceptance raw .rfc8785 = .ok acceptanceBytes ∧
    SignedBy verifier discoverySource context acceptanceBytes.bytes
      transition.parties.successorAuthority transition.successorAcceptance.keyId
      transition.successorAcceptance.signature

/-- The hops lead from one authority to another: each starts where the one before it
ended. -/
structure Leads (origin owner : AuthorityId) (hops : List OwnershipTransitionParties) : Prop where
  starts : ∀ first ∈ hops.head?, first.predecessorAuthority = origin
  handedOn : hops.IsChain fun earlier later =>
    later.predecessorAuthority = earlier.successorAuthority
  ends : ∀ last ∈ hops.getLast?, last.successorAuthority = owner

/-- Accepted parties are the given ones. That they differ is checked and carried by the type. -/
theorem parties_of_new (origin predecessor successor : AuthorityId)
    (parties : OwnershipTransitionParties)
    (accepted : OwnershipTransitionParties.new origin predecessor successor = .ok parties) :
    parties.originAuthority = origin ∧ parties.predecessorAuthority = predecessor ∧
      parties.successorAuthority = successor := by
  unfold OwnershipTransitionParties.new at accepted
  split at accepted
  · cases accepted
    exact ⟨rfl, rfl, rfl⟩
  · cases accepted

/-- An accepted transition is made field by field. It is the inversion of the validator, for the
fields that consent is about. -/
theorem transition_from (mapping : Text.CaseMapping) (raw : RawOwnershipTransitionDocument)
    (transition : ValidatedOwnershipTransitionDocument)
    (accepted : ValidatedOwnershipTransitionDocument.tryFrom mapping raw = .ok transition) :
    TransitionFrom mapping raw transition := by
  simp only [ValidatedOwnershipTransitionDocument.tryFrom, validateTransitionSignature,
    validateTransitionAcceptance, Results.bind_ok_iff, Results.pure_ok_iff] at accepted
  obtain ⟨-, -, -, -, -, -, -, -, -, -, lineage, -, origin, originAccepted, predecessor,
    fromAccepted, successor, toAccepted, parties, differ, -, -, -, -, -, -, _,
    ⟨_, predecessorKeyId, _, predecessorSignature, rfl⟩, _,
    ⟨_, successorKeyId, _, successorSignature, rfl⟩, rfl⟩ := accepted
  obtain ⟨rfl, rfl, rfl⟩ := parties_of_new _ _ _ _ differ
  exact ⟨originAccepted, fromAccepted, toAccepted, rfl, predecessorKeyId, predecessorSignature,
    rfl, successorKeyId, successorSignature⟩

/-- A binding passes exactly when it is one of the expected party. The conditions are those of
the source: authority, key, profile, period, and no delegation. -/
theorem ensure_transition_signer_binding_ok_iff (signerBinding : ResolvedSignerBinding)
    (expectedAuthority : AuthorityId) (expectedKeyId : KeyId)
    (canonicalProfile : CanonicalizationProfile) (verifiedAt : DateTime) (done : Unit) :
    ensureTransitionSignerBinding signerBinding expectedAuthority expectedKeyId canonicalProfile
        verifiedAt = .ok done ↔
      signerBinding.issuerAuthority = expectedAuthority ∧
      signerBinding.keyRecord.keyId = expectedKeyId ∧
      signerBinding.signatureProfile.canonicalization.value = canonicalProfile.discoveryName ∧
      signerBinding.keyRecord.isActiveAt verifiedAt = true ∧
      signerBinding.delegatedPrincipal = none := by
  simp only [ensureTransitionSignerBinding, Results.bind_ok_iff, Results.reject_if_ok_iff,
    exists_const, ne_eq, not_not, Bool.not_eq_false, Bool.not_eq_true,
    Option.isSome_eq_false_iff, Option.isNone_iff_eq_none]

/-- Replacing the error changes no success. -/
theorem map_error_ok_iff {α : Type} (result : Except TrustGrantError α)
    (problem : TrustGrantError) (value : α) :
    mapError result problem = .ok value ↔ result = .ok value := by
  cases result <;> simp [mapError]

/-- A verified transition has the consent of both parties, and chain verification reads the
record of exactly this transition. -/
theorem consented_of_verified (mapping : Text.CaseMapping) (verifier : SignatureVerifier)
    (discoverySource : AuthorityDiscoverySource) (context : VerificationContext)
    (raw : RawOwnershipTransitionDocument) (verified : VerifiedOwnershipTransition)
    (accepted : verifyRawTransition mapping raw verifier discoverySource context =
      .ok verified) :
    Consented mapping verifier discoverySource context raw verified.document ∧
      verified.document.toRecord = .ok verified.record := by
  simp only [verifyRawTransition, Results.bind_ok_iff, Results.pure_ok_iff,
    ensure_transition_signer_binding_ok_iff, Results.reject_if_ok_iff, map_error_ok_iff,
    exists_const, not_lt, gt_iff_lt] at accepted
  obtain ⟨transition, validates, predecessorBinding, predecessorResolved, successorBinding,
    successorResolved, ⟨predecessorAuthority, predecessorKey, -, predecessorActive,
    predecessorDirect⟩, ⟨successorAuthority, successorKey, -, successorActive, successorDirect⟩,
    inTime, proposalBytes, proposal, ⟨⟩, proposalSigned, acceptanceBytes, acceptance, ⟨⟩,
    acceptanceSigned, record, recorded, rfl⟩ := accepted
  have made := transition_from mapping raw transition validates
  refine ⟨⟨validates, made, made.acceptedAt ▸ inTime, ?_, ?_⟩, recorded⟩
  · exact ⟨proposalBytes, proposal, predecessorBinding, predecessorResolved, predecessorAuthority,
      predecessorKey, predecessorActive, predecessorDirect, proposalSigned⟩
  · exact ⟨acceptanceBytes, acceptance, successorBinding, successorResolved, successorAuthority,
      successorKey, successorActive, successorDirect, acceptanceSigned⟩

/-- The record of a transition keeps its parties and its time. The rest of it is not needed for
consent. -/
theorem record_of_transition (transition : ValidatedOwnershipTransitionDocument)
    (record : OwnershipTransitionRecord) (recorded : transition.toRecord = .ok record) :
    record.parties = transition.parties ∧ record.effectiveAt = transition.effectiveAt := by
  unfold ValidatedOwnershipTransitionDocument.toRecord OwnershipTransitionRecord.new at recorded
  split at recorded
  · split at recorded
    · cases recorded
      exact ⟨rfl, rfl⟩
    · cases recorded
  · cases recorded

/-- A linear history leads from the origin of its document to where its last transition
ended. -/
theorem leads_of_history (document : ValidatedTrustGrantDocument) (checkedAt : DateTime)
    (transitions : List OwnershipTransitionRecord) (last : OwnershipTransitionRecord)
    (history : LinearHistory document checkedAt transitions)
    (isLast : last ∈ transitions.getLast?) :
    Leads document.ownershipAuthorityState.originAuthority last.successorAuthority
      (transitions.map OwnershipTransitionRecord.parties) where
  starts := by
    intro first isFirst
    rw [List.head?_map, Option.mem_def, Option.map_eq_some_iff] at isFirst
    obtain ⟨transition, isHead, rfl⟩ := isFirst
    exact (history.starts transition isHead).2
  handedOn := by
    rw [List.isChain_map]
    exact history.follows.imp fun _ _ follows => follows.handedOn
  ends := by
    intro final isEnd
    rw [List.getLast?_map, Option.mem_def.mp isLast] at isEnd
    cases isEnd
    rfl

/-- What acceptance establishes about the owner: each supplied transition has the consent of
both parties and has taken effect, and either there is none and the origin is the owner, or
they lead from the origin to the owner. -/
theorem ownership_of_accepted
    (accepted : verifyRawDocumentWithSources mapping rawDocument verifier sources context =
      .ok artifacts) :
    ∃ document rawTransitions transitions,
      ValidatedTrustGrantDocument.tryFrom mapping rawDocument = .ok document ∧
      artifacts.verifiedGrant.document = .ofValidated document ∧
      sources.ownershipSource document context = .ok rawTransitions ∧
      List.Forall₂ (Consented mapping verifier sources.discoverySource context) rawTransitions
        transitions ∧
      (∀ transition ∈ transitions, transition.effectiveAt ≤ context.verifiedAt) ∧
      artifacts.verifiedGrant.metadata.ownership.originAuthority =
        document.ownershipAuthorityState.originAuthority ∧
      (rawTransitions = [] ∧ artifacts.verifiedGrant.metadata.ownership.activeOwningAuthority =
          document.ownershipAuthorityState.originAuthority ∨
        rawTransitions ≠ [] ∧ Leads document.ownershipAuthorityState.originAuthority
          artifacts.verifiedGrant.metadata.ownership.activeOwningAuthority
          (transitions.map ValidatedOwnershipTransitionDocument.parties)) := by
  obtain ⟨document, signerBinding, rawTransitions, records, ownership, revocation, validated, -,
    supplied, verified, established, -, lastStage⟩ :=
    verify_raw_document_with_sources_ok_iff.mp accepted
  obtain ⟨matched, -, -, -, rfl⟩ := (verify_impl_ok_iff _ _ _ _ _).mp lastStage
  obtain ⟨verifieds, eachVerified, rfl⟩ := (Results.map_list_then_ok_iff _ _ _ _).mp verified
  rw [Results.map_list_ok_iff] at eachVerified
  have consented := eachVerified.imp fun raw verified =>
    consented_of_verified mapping verifier sources.discoverySource context raw verified
  have recorded : ∀ verified ∈ verifieds, verified.record.parties = verified.document.parties ∧
      verified.record.effectiveAt = verified.document.effectiveAt := by
    intro verified member
    obtain ⟨raw, -, -, isRecord⟩ := Results.paired_input consented verified member
    exact record_of_transition verified.document verified.record isRecord
  have sameParties : (verifieds.map fun verified => verified.record).map
        OwnershipTransitionRecord.parties =
      (verifieds.map VerifiedOwnershipTransition.document).map
        ValidatedOwnershipTransitionDocument.parties := by
    rw [List.map_map, List.map_map]
    exact List.map_congr_left fun verified member => (recorded verified member).1
  have bothConsented : List.Forall₂
      (Consented mapping verifier sources.discoverySource context) rawTransitions
      (verifieds.map VerifiedOwnershipTransition.document) := by
    rw [List.forall₂_map_right_iff]
    exact consented.imp fun _ _ both => both.1
  refine ⟨document, rawTransitions, _, validated, rfl, supplied, bothConsented, ?_,
    matched.origin, ?_⟩
  · intro transition member
    obtain ⟨verified, inside, rfl⟩ := List.mem_map.mp member
    rw [← (recorded verified inside).2]
    have listed : verified.record ∈ verifieds.map fun verified => verified.record :=
      List.mem_map_of_mem inside
    rcases (verify_document_ownership_ok_iff _ _).mp established with ⟨nothing, -⟩ |
      ⟨_, -, -, history, -⟩
    · rw [nothing] at listed
      cases listed
    · exact (history.inForce verified.record listed).effective
  · rcases (verify_document_ownership_ok_iff _ _).mp established with ⟨nothing, static, rfl⟩ |
      ⟨last, isLast, -, history, owner, rfl⟩
    · obtain rfl := List.map_eq_nil_iff.mp nothing
      exact .inl ⟨List.forall₂_nil_right_iff.mp eachVerified, static.symm⟩
    · refine .inr ⟨?_, ?_⟩
      · rintro rfl
        obtain rfl := List.forall₂_nil_left_iff.mp eachVerified
        cases isLast
      · have leads := leads_of_history document context.verifiedAt _ last history isLast
        rw [sameParties, owner] at leads
        exact leads

/-- A grant whose owner is not the origin of its resources is accepted only with a chain of
transitions from the origin to the owner, each of which both of its parties consented to
and which has taken effect.

Proof: ownership is established either statically or by a chain, and the first would make the
owner the origin. The chain is the verified one, so each of its transitions passed the checks of
both parties. -/
theorem transfer_needs_consent
    (accepted : verifyRawDocumentWithSources mapping rawDocument verifier sources context =
      .ok artifacts)
    (transferred : artifacts.verifiedGrant.metadata.ownership.activeOwningAuthority ≠
      artifacts.verifiedGrant.metadata.ownership.originAuthority) :
    ∃ document rawTransitions transitions,
      ValidatedTrustGrantDocument.tryFrom mapping rawDocument = .ok document ∧
      sources.ownershipSource document context = .ok rawTransitions ∧ rawTransitions ≠ [] ∧
      List.Forall₂ (Consented mapping verifier sources.discoverySource context) rawTransitions
        transitions ∧
      (∀ transition ∈ transitions, transition.effectiveAt ≤ context.verifiedAt) ∧
      Leads document.ownershipAuthorityState.originAuthority
        artifacts.verifiedGrant.metadata.ownership.activeOwningAuthority
        (transitions.map ValidatedOwnershipTransitionDocument.parties) := by
  obtain ⟨document, rawTransitions, transitions, validated, -, supplied, consented, effective,
    origin, ⟨-, static⟩ | ⟨present, leads⟩⟩ := ownership_of_accepted accepted
  · exact absurd (static.trans origin.symm) transferred
  · exact ⟨document, rawTransitions, transitions, validated, supplied, present, consented,
      effective, leads⟩

/-- The document of the last owner is accepted with two transfers, each of which both of its
authorities signed, and the second hands on what the first one gave. The theorem is applied to
the chain of both, so the link between them is not vacuous. -/
theorem small_transfer_consented :
    ∃ first second, List.Forall₂ (Consented Text.asciiCaseMapping smallVerifier
        (smallSources [smallTransition, smallNextTransition]).discoverySource smallContext)
          [smallTransition, smallNextTransition] [first, second] ∧
      second.parties.predecessorAuthority = first.parties.successorAuthority := by
  obtain ⟨document, rawTransitions, transitions, -, supplied, -, consented, -, leads⟩ :=
    transfer_needs_consent (Results.value_of_eq (verifyRawDocumentWithSources
      Text.asciiCaseMapping smallHandedOn smallVerifier
      (smallSources [smallTransition, smallNextTransition]) smallContext)
      (by decide +kernel)) (by decide +kernel)
  obtain rfl := Except.ok.inj supplied
  obtain ⟨first, others, -, later, rfl⟩ := List.forall₂_cons_left_iff.mp consented
  obtain ⟨second, others, -, none, rfl⟩ := List.forall₂_cons_left_iff.mp later
  obtain rfl := List.forall₂_nil_left_iff.mp none
  exact ⟨first, second, consented, (List.isChain_cons_cons.mp leads.handedOn).1⟩

end TrustGrant
