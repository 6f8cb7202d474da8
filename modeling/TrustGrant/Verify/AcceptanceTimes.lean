import TrustGrant.Verify.Consent
import TrustGrant.Verify.Bundle
import Mathlib.Order.Interval.Set.OrdConnected

/-!
# When a document is accepted

Everything that verification compares with its time is a period: that of a key, of a
transition or of a revocation record. A proof bundle answers the same at any time. So the
times at which a document is accepted against one bundle form an interval. A document that
lapsed is never accepted again, and within the interval nothing but the time stamps of the
verified grant changes.

Each stage is shown to succeed between two times at which it succeeds, with the same outcome
up to its time stamp. A bundle is steady, which means that its answers do not depend on the
time, and this carries the argument from stage to stage.
-/

namespace TrustGrant

open Rust Library

variable {mapping : Text.CaseMapping} {rawDocument : RawTrustGrantDocument}
  {verifier : SignatureVerifier} {sources : VerificationSources} {posture : VerificationPosture}

/-- What the sources answer does not depend on the time of the verification. A proof bundle is
steady, as it answers from its maps. -/
structure Steady (sources : VerificationSources) (posture : VerificationPosture) : Prop where
  discovery : ∀ authority keyId principal first second,
    sources.discoverySource authority keyId principal ⟨first, posture⟩ =
      sources.discoverySource authority keyId principal ⟨second, posture⟩
  ownership : ∀ document first second, sources.ownershipSource document ⟨first, posture⟩ =
    sources.ownershipSource document ⟨second, posture⟩
  revocation : ∀ document signerBinding first second,
    sources.revocationSource document signerBinding ⟨first, posture⟩ =
      sources.revocationSource document signerBinding ⟨second, posture⟩

/-- A bundle answers the same at any time. -/
theorem bundle_steady (bundle : TrustGrantProofBundle) (posture : VerificationPosture) :
    Steady bundle.asSources posture where
  discovery _ _ _ _ _ := rfl
  ownership _ _ _ := rfl
  revocation _ _ _ _ := rfl

/-- The same artifacts, established at another time. -/
def VerificationArtifacts.establishedAt (artifacts : VerificationArtifacts) (time : DateTime) :
    VerificationArtifacts :=
  { artifacts with
    verifiedGrant := { artifacts.verifiedGrant with
      metadata := { artifacts.verifiedGrant.metadata with
        verifiedAt := time
        ownership := { artifacts.verifiedGrant.metadata.ownership with checkedAt := time } } } }

section Between

variable {early late time : DateTime}

/-- A key that is active at two times is active between them. -/
theorem active_between (record : AuthorityKeyRecord) (after : early ≤ time) (before : time ≤ late)
    (activeEarly : record.isActiveAt early = true) (activeLate : record.isActiveAt late = true) :
    record.isActiveAt time = true := by
  simp only [AuthorityKeyRecord.isActiveAt, Bool.and_eq_true, decide_eq_true_eq] at *
  exact ⟨activeEarly.1.trans after, before.trans activeLate.2⟩

/-- A transition that is in force at two times is in force between them. -/
theorem in_force_between (transition : OwnershipTransitionRecord) (after : early ≤ time)
    (before : time ≤ late) (earlyInForce : InForce transition early)
    (lateInForce : InForce transition late) : InForce transition time where
  effective := earlyInForce.effective.trans after
  window window present :=
    ⟨(earlyInForce.window window present).1.trans after,
      before.trans (lateInForce.window window present).2⟩

/-- A history that is linear at two times is linear between them. The time enters only where a
transition has to be in force. -/
theorem linear_history_between (document : ValidatedTrustGrantDocument)
    (transitions : List OwnershipTransitionRecord) (after : early ≤ time) (before : time ≤ late)
    (earlyHistory : LinearHistory document early transitions)
    (lateHistory : LinearHistory document late transitions) :
    LinearHistory document time transitions :=
  { earlyHistory with
    inForce := fun transition member => in_force_between transition after before
      (earlyHistory.inForce transition member) (lateHistory.inForce transition member) }

/-- Ownership that is established at two times is established between them. The conditions on a
history are inequalities with the time on one side, and everything else of the record does not
speak of the time. -/
theorem ownership_between (document : ValidatedTrustGrantDocument)
    (transitions : List OwnershipTransitionRecord) (after : early ≤ time) (before : time ≤ late)
    (earlyRecord lateRecord : OwnershipVerificationRecord)
    (earlyEstablished : verifyDocumentOwnership document transitions early = .ok earlyRecord)
    (lateEstablished : verifyDocumentOwnership document transitions late = .ok lateRecord) :
    lateRecord = { earlyRecord with checkedAt := late } ∧
      verifyDocumentOwnership document transitions time =
        .ok { earlyRecord with checkedAt := time } := by
  rw [verify_document_ownership_ok_iff] at earlyEstablished lateEstablished ⊢
  rcases earlyEstablished with ⟨static, owned, rfl⟩ | ⟨last, isLast, short, history, owner, rfl⟩
  · rcases lateEstablished with ⟨-, -, rfl⟩ | ⟨last, isLast, -⟩
    · exact ⟨rfl, .inl ⟨static, owned, rfl⟩⟩
    · rw [static] at isLast
      cases isLast
  · rcases lateEstablished with ⟨static, -⟩ | ⟨other, isLastToo, -, lateHistory, -, rfl⟩
    · rw [static] at isLast
      cases isLast
    · obtain rfl := Option.some.inj ((Option.mem_def.mp isLast).symm.trans
        (Option.mem_def.mp isLastToo))
      refine ⟨rfl, .inr ⟨last, isLast, short, ?_, owner, rfl⟩⟩
      exact linear_history_between document transitions after before history lateHistory

/-- A transition that is verified at two times is verified between them, with one record. The
sources answer alike at all times, so the two signers are the same ones, and their keys are
active between. -/
theorem transition_between (steady : Steady sources posture) (raw : RawOwnershipTransitionDocument)
    (after : early ≤ time) (before : time ≤ late) (first second : VerifiedOwnershipTransition)
    (earlyVerified : verifyRawTransition mapping raw verifier sources.discoverySource
      ⟨early, posture⟩ = .ok first)
    (lateVerified : verifyRawTransition mapping raw verifier sources.discoverySource
      ⟨late, posture⟩ = .ok second) :
    second.record = first.record ∧
      ∃ verified, verifyRawTransition mapping raw verifier sources.discoverySource
          ⟨time, posture⟩ = .ok verified ∧ verified.record = first.record := by
  simp only [verifyRawTransition, Results.bind_ok_iff, Results.pure_ok_iff,
    ensure_transition_signer_binding_ok_iff, Results.reject_if_ok_iff, map_error_ok_iff,
    exists_const, not_lt, gt_iff_lt, steady.discovery _ _ _ late early,
    steady.discovery _ _ _ time early] at earlyVerified lateVerified ⊢
  obtain ⟨transition, validates, predecessorBinding, predecessorResolved, successorBinding,
    successorResolved, ⟨predecessorAuthority, predecessorKey, predecessorProfile,
    predecessorActive, predecessorDirect⟩, ⟨successorAuthority, successorKey, successorProfile,
    successorActive, successorDirect⟩, inTime, proposalBytes, proposal, ⟨⟩, proposalSigned,
    acceptanceBytes, acceptance, ⟨⟩, acceptanceSigned, record, recorded, rfl⟩ := earlyVerified
  obtain ⟨transitionToo, validatesToo, predecessorToo, predecessorResolvedToo, successorToo,
    successorResolvedToo, ⟨-, -, -, predecessorActiveToo, -⟩, ⟨-, -, -, successorActiveToo, -⟩, -,
    -, -, ⟨⟩, -, -, -, ⟨⟩, -, recordToo, recordedToo, rfl⟩ := lateVerified
  obtain rfl := Except.ok.inj (validates.symm.trans validatesToo)
  obtain rfl := Except.ok.inj (predecessorResolved.symm.trans predecessorResolvedToo)
  obtain rfl := Except.ok.inj (successorResolved.symm.trans successorResolvedToo)
  obtain rfl := Except.ok.inj (recorded.symm.trans recordedToo)
  refine ⟨rfl, _, ⟨transition, validates, predecessorBinding, predecessorResolved,
    successorBinding, successorResolved, ⟨predecessorAuthority, predecessorKey,
    predecessorProfile, ?_, predecessorDirect⟩, ⟨successorAuthority, successorKey,
    successorProfile, ?_, successorDirect⟩, inTime.trans after, proposalBytes, proposal, ⟨⟩,
    proposalSigned, acceptanceBytes, acceptance, ⟨⟩, acceptanceSigned, record, recorded, rfl⟩,
    rfl⟩
  · exact active_between _ after before predecessorActive predecessorActiveToo
  · exact active_between _ after before successorActive successorActiveToo

/-- Transitions that are verified at two times are verified between them, with the same
records. -/
theorem transitions_between (steady : Steady sources posture)
    (rawTransitions : List RawOwnershipTransitionDocument) (after : early ≤ time)
    (before : time ≤ late) (first second : List OwnershipTransitionRecord)
    (earlyVerified : verifyTransitions mapping verifier sources.discoverySource ⟨early, posture⟩
      rawTransitions = .ok first)
    (lateVerified : verifyTransitions mapping verifier sources.discoverySource ⟨late, posture⟩
      rawTransitions = .ok second) :
    second = first ∧ verifyTransitions mapping verifier sources.discoverySource ⟨time, posture⟩
      rawTransitions = .ok first := by
  unfold verifyTransitions at *
  rw [Results.map_list_ok_iff] at *
  induction earlyVerified generalizing second with
  | nil =>
    cases lateVerified
    exact ⟨rfl, .nil⟩
  | cons verified _ inductionHypothesis =>
    cases lateVerified with
    | cons verifiedToo lateRest =>
      obtain ⟨earlyTransition, earlyResult, earlyRecord⟩ := (Results.bind_ok_iff _ _ _).mp verified
      obtain ⟨lateTransition, lateResult, lateRecord⟩ := (Results.bind_ok_iff _ _ _).mp verifiedToo
      obtain rfl := (Results.pure_ok_iff _ _).mp earlyRecord
      obtain rfl := (Results.pure_ok_iff _ _).mp lateRecord
      obtain ⟨sameRecord, between, betweenResult, betweenRecord⟩ := transition_between steady _
        after before earlyTransition lateTransition earlyResult lateResult
      obtain ⟨sameRest, betweenRest⟩ := inductionHypothesis _ lateRest
      refine ⟨by rw [sameRecord, sameRest], .cons ?_ betweenRest⟩
      rw [Results.bind_ok_iff]
      exact ⟨between, betweenResult, (Results.pure_ok_iff _ _).mpr betweenRecord⟩

/-- A revocation state is resolved alike at any time. -/
theorem resolve_revocation_steady (steady : Steady sources posture)
    (document : ValidatedTrustGrantDocument) (signerBinding : ResolvedSignerBinding)
    (first second : DateTime) :
    resolveRevocation document sources.revocationSource signerBinding ⟨first, posture⟩ =
      resolveRevocation document sources.revocationSource signerBinding ⟨second, posture⟩ := by
  unfold resolveRevocation
  rw [steady.revocation document signerBinding first second]

/-- The last stage, passed at two times with what was resolved once, is passed between
them. -/
theorem last_stage_between (document : ValidatedTrustGrantDocument)
    (signerBinding : ResolvedSignerBinding) (ownership : OwnershipVerificationRecord)
    (revocation : VerifiedRevocationState) (after : early ≤ time) (before : time ≤ late)
    (first second : VerificationArtifacts)
    (earlyAccepted : verifyImpl rawDocument document verifier
      ⟨early, posture, signerBinding, ownership, revocation⟩ = .ok first)
    (lateAccepted : verifyImpl rawDocument document verifier
      ⟨late, posture, signerBinding, { ownership with checkedAt := late }, revocation⟩ =
        .ok second) :
    second = first.establishedAt late ∧
      verifyImpl rawDocument document verifier
        ⟨time, posture, signerBinding, { ownership with checkedAt := time }, revocation⟩ =
          .ok (first.establishedAt time) := by
  rw [verify_impl_ok_iff] at *
  obtain ⟨matched, state, acceptable, signed, rfl⟩ := earlyAccepted
  obtain ⟨matchedToo, -, acceptableToo, -, rfl⟩ := lateAccepted
  refine ⟨rfl, ?_, state, ?_, signed, rfl⟩
  · exact ⟨matched.issuer, matched.keyId, matched.canonicalization,
      active_between _ after before matched.active matchedToo.active, matched.principal,
      matched.origin, matched.owner⟩
  · intro record present
    have fresh := (acceptableToo record present).fresh
    simp only [RevocationRecord.isFreshAt, decide_eq_true_eq] at fresh
    refine ⟨?_, (acceptable record present).source, (acceptable record present).finality⟩
    simp only [RevocationRecord.isFreshAt, decide_eq_true_eq]
    exact before.trans fresh

/-- A document that is accepted at two times is accepted between them, and only the time
stamps of the artifacts differ. -/
theorem accepted_between (steady : Steady sources posture) (after : early ≤ time)
    (before : time ≤ late) (first second : VerificationArtifacts)
    (earlyAccepted : verifyRawDocumentWithSources mapping rawDocument verifier sources
      ⟨early, posture⟩ = .ok first)
    (lateAccepted : verifyRawDocumentWithSources mapping rawDocument verifier sources
      ⟨late, posture⟩ = .ok second) :
    second = first.establishedAt late ∧
      verifyRawDocumentWithSources mapping rawDocument verifier sources ⟨time, posture⟩ =
        .ok (first.establishedAt time) := by
  obtain ⟨document, signerBinding, rawTransitions, transitions, ownership, revocation, validated,
    resolved, supplied, verified, established, checked, lastStage⟩ :=
    verify_raw_document_with_sources_ok_iff.mp earlyAccepted
  obtain ⟨documentToo, signerToo, rawToo, transitionsToo, ownershipToo, revocationToo,
    validatedToo, resolvedToo, suppliedToo, verifiedToo, establishedToo, checkedToo,
    lastStageToo⟩ := verify_raw_document_with_sources_ok_iff.mp lateAccepted
  obtain rfl := Except.ok.inj (validated.symm.trans validatedToo)
  obtain rfl := Except.ok.inj (resolved.symm.trans
    ((steady.discovery _ _ _ early late).trans resolvedToo))
  obtain rfl := Except.ok.inj (supplied.symm.trans
    ((steady.ownership _ early late).trans suppliedToo))
  obtain rfl := Except.ok.inj (checked.symm.trans
    ((resolve_revocation_steady steady _ _ early late).trans checkedToo))
  obtain ⟨rfl, verifiedBetween⟩ := transitions_between steady rawTransitions after before
    transitions transitionsToo verified verifiedToo
  obtain ⟨rfl, establishedBetween⟩ := ownership_between document _ after before
    ownership ownershipToo established establishedToo
  obtain ⟨same, acceptedBetween⟩ := last_stage_between document signerBinding ownership revocation
    after before first second lastStage lastStageToo
  refine ⟨same, verify_raw_document_with_sources_ok_iff.mpr ⟨document, signerBinding,
    rawTransitions, _, _, revocation, validated, ?_, ?_, verifiedBetween, establishedBetween, ?_,
    acceptedBetween⟩⟩
  · exact (steady.discovery _ _ _ time early).trans resolved
  · exact (steady.ownership _ time early).trans supplied
  · exact (resolve_revocation_steady steady _ _ time early).trans checked

end Between

/-- A text that is accepted at two times is accepted between them, and only the time stamps
of the artifacts differ. -/
theorem text_accepted_between (mapping : Text.CaseMapping)
    (fromStr : String → Option RawTrustGrantDocument) (json : String)
    (verifier : SignatureVerifier) (bundle : TrustGrantProofBundle)
    (posture : VerificationPosture) {early late time : DateTime} (after : early ≤ time)
    (before : time ≤ late) (first second : VerificationArtifacts)
    (earlyAccepted : verifyJsonStrWithBundle mapping fromStr json verifier bundle
      ⟨early, posture⟩ = .ok first)
    (lateAccepted : verifyJsonStrWithBundle mapping fromStr json verifier bundle
      ⟨late, posture⟩ = .ok second) :
    second = first.establishedAt late ∧
      verifyJsonStrWithBundle mapping fromStr json verifier bundle ⟨time, posture⟩ =
        .ok (first.establishedAt time) := by
  obtain ⟨rawDocument, read, acceptedEarly⟩ := (Results.bind_ok_iff _ _ _).mp earlyAccepted
  obtain ⟨rawToo, readToo, acceptedLate⟩ := (Results.bind_ok_iff _ _ _).mp lateAccepted
  obtain rfl := Except.ok.inj (read.symm.trans readToo)
  obtain ⟨same, acceptedBetween⟩ := accepted_between (bundle_steady bundle posture) after before
    first second acceptedEarly acceptedLate
  exact ⟨same, (Results.bind_ok_iff _ _ _).mpr ⟨rawDocument, read, acceptedBetween⟩⟩

/-- The times at which a document is accepted against a bundle. -/
def acceptanceTimes (mapping : Text.CaseMapping)
    (fromStr : String → Option RawTrustGrantDocument) (json : String)
    (verifier : SignatureVerifier) (bundle : TrustGrantProofBundle)
    (posture : VerificationPosture) : Set DateTime :=
  fun time => ∃ artifacts, verifyJsonStrWithBundle mapping fromStr json verifier bundle
    ⟨time, posture⟩ = .ok artifacts

/-- Acceptance lasts: the times at which a document is accepted against one bundle under one
posture form an interval, and any two verifications in it establish the same grant with
nothing but their own time in it.

Proof: every stage that succeeds at two times succeeds between them with the same outcome.
Two verifications are put in order of time, and the later one is the earlier one with
another stamp. -/
theorem accepted_over_interval (mapping : Text.CaseMapping)
    (fromStr : String → Option RawTrustGrantDocument) (json : String)
    (verifier : SignatureVerifier) (bundle : TrustGrantProofBundle)
    (posture : VerificationPosture) :
    (acceptanceTimes mapping fromStr json verifier bundle posture).OrdConnected ∧
      ∀ early late first second,
        verifyJsonStrWithBundle mapping fromStr json verifier bundle ⟨early, posture⟩ =
            .ok first →
          verifyJsonStrWithBundle mapping fromStr json verifier bundle ⟨late, posture⟩ =
              .ok second →
            second = first.establishedAt late := by
  constructor
  · refine ⟨?_⟩
    rintro early ⟨first, earlyAccepted⟩ late ⟨second, lateAccepted⟩ time ⟨after, before⟩
    exact ⟨_, (text_accepted_between mapping fromStr json verifier bundle posture after before
      first second earlyAccepted lateAccepted).2⟩
  · intro early late first second earlyAccepted lateAccepted
    rcases le_total early late with ordered | ordered
    · exact (text_accepted_between mapping fromStr json verifier bundle posture le_rfl ordered
        first second earlyAccepted lateAccepted).1
    · obtain ⟨earlier, stamped⟩ := text_accepted_between mapping fromStr json verifier bundle
        posture le_rfl ordered second first lateAccepted earlyAccepted
      rw [earlier]
      exact Except.ok.inj (lateAccepted.symm.trans stamped)

end TrustGrant
