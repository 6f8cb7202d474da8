import TrustGrant.Verify.Acceptance
import TrustGrant.Verify.Bundle

/-!
# Verification under a posture

A posture only asks more of the revocation evidence. A proof bundle answers the same under
any posture. So what is accepted under a posture is what is accepted online on evidence that
satisfies the posture, and the grants differ in nothing but the posture they name.

The demands of a posture are a predicate on the evidence, and the equivalence says that
acceptance under a posture is acceptance online together with this predicate.
-/

namespace TrustGrant

open Rust Library

variable {mapping : Text.CaseMapping} {rawDocument : RawTrustGrantDocument}
  {verifier : SignatureVerifier} {time : DateTime}

/-- The evidence that a posture asks for. Away from live sources it must come from a
snapshot or from a proof bundle, and it must at least be trusted. -/
def VerificationPosture.SatisfiedBy (posture : VerificationPosture) (record : RevocationRecord) :
    Prop :=
  posture = .online ∨
    record.sourceKind.isNonLive = true ∧ ProofFinality.trustedSnapshot.rank ≤ record.finality.rank

/-- The same artifacts, established under another posture. -/
def VerificationArtifacts.underPosture (artifacts : VerificationArtifacts)
    (posture : VerificationPosture) : VerificationArtifacts :=
  { artifacts with
    verifiedGrant := { artifacts.verifiedGrant with
      metadata := { artifacts.verifiedGrant.metadata with posture := posture } } }

/-- A record suffices under a posture exactly when it suffices online and satisfies the
posture. -/
theorem acceptable_under_posture_iff (posture : VerificationPosture)
    (signerBinding : ResolvedSignerBinding) (ownership : OwnershipVerificationRecord)
    (revocation : VerifiedRevocationState) (record : RevocationRecord) :
    RevocationAcceptable ⟨time, posture, signerBinding, ownership, revocation⟩ record ↔
      RevocationAcceptable ⟨time, .online, signerBinding, ownership, revocation⟩ record ∧
        posture.SatisfiedBy record := by
  have trusted : ProofFinality.observed.rank ≤ ProofFinality.trustedSnapshot.rank := by decide
  constructor
  · rintro ⟨fresh, source, finality⟩
    cases posture with
    | online => exact ⟨⟨fresh, source, finality⟩, .inl rfl⟩
    | cached | offline =>
      have enough := of_decide_eq_true finality
      exact ⟨⟨fresh, rfl, decide_eq_true (trusted.trans enough)⟩, .inr ⟨source, enough⟩⟩
  · rintro ⟨⟨fresh, source, finality⟩, rfl | ⟨nonLive, enough⟩⟩
    · exact ⟨fresh, source, finality⟩
    · cases posture with
      | online => exact ⟨fresh, source, finality⟩
      | cached | offline => exact ⟨fresh, nonLive, decide_eq_true enough⟩

/-- The last stage under a posture is the last stage online, on evidence that satisfies the
posture. -/
theorem last_stage_under_posture_iff (posture : VerificationPosture)
    (document : ValidatedTrustGrantDocument) (signerBinding : ResolvedSignerBinding)
    (ownership : OwnershipVerificationRecord) (revocation : VerifiedRevocationState)
    (artifacts : VerificationArtifacts) :
    verifyImpl rawDocument document verifier ⟨time, posture, signerBinding, ownership, revocation⟩ =
        .ok artifacts ↔
      ∃ online, verifyImpl rawDocument document verifier
          ⟨time, .online, signerBinding, ownership, revocation⟩ = .ok online ∧
        (∀ record ∈ online.verifiedGrant.metadata.revocation.checkedRecord,
          posture.SatisfiedBy record) ∧
        artifacts = online.underPosture posture := by
  have matchedAlike (first second : VerificationPosture)
      (matched : MetadataMatches ⟨time, first, signerBinding, ownership, revocation⟩ document
        .rfc8785) :
      MetadataMatches ⟨time, second, signerBinding, ownership, revocation⟩ document .rfc8785 :=
    ⟨matched.issuer, matched.keyId, matched.canonicalization, matched.active, matched.principal,
      matched.origin, matched.owner⟩
  simp only [verify_impl_ok_iff]
  constructor
  · rintro ⟨matched, state, acceptable, signed, rfl⟩
    have split (record : RevocationRecord) (present : record ∈ revocation.checkedRecord) :=
      (acceptable_under_posture_iff posture signerBinding ownership revocation record).mp
        (acceptable record present)
    exact ⟨_, ⟨matchedAlike _ _ matched, state, fun record present => (split record present).1,
      signed, rfl⟩, fun record present => (split record present).2, rfl⟩
  · rintro ⟨online, ⟨matched, state, acceptable, signed, rfl⟩, satisfied, rfl⟩
    refine ⟨matchedAlike _ _ matched, state, fun record present => ?_, signed, rfl⟩
    exact (acceptable_under_posture_iff posture signerBinding ownership revocation record).mpr
      ⟨acceptable record present, satisfied record present⟩

/-- The transitions that a bundle holds are verified alike under any posture. Neither the bundle
nor a check of a transition looks at it. -/
theorem transitions_under_posture (bundle : TrustGrantProofBundle)
    (rawTransitions : List RawOwnershipTransitionDocument)
    (first second : VerificationPosture) :
    verifyTransitions mapping verifier bundle.resolveSignerBinding ⟨time, first⟩ rawTransitions =
      verifyTransitions mapping verifier bundle.resolveSignerBinding ⟨time, second⟩
        rawTransitions := by
  unfold verifyTransitions
  congr 1
  funext raw
  simp only [verifyRawTransition, bind_assoc, pure_bind]
  rfl

/-- A posture only refuses, and only for the revocation evidence: a text is accepted against
a bundle under a posture exactly when it is accepted online and the revocation record that
was found, if any, satisfies the posture. The posture is all that the grant then differs
in.

Proof: both sides are inverted into the stages of the verification. All stages but the last do
not look at the posture, and the last one asks more of the revocation record and nothing else. -/
theorem accepted_under_posture_iff (mapping : Text.CaseMapping)
    (fromStr : String → Option RawTrustGrantDocument) (json : String)
    (verifier : SignatureVerifier) (bundle : TrustGrantProofBundle) (time : DateTime)
    (posture : VerificationPosture) (artifacts : VerificationArtifacts) :
    verifyJsonStrWithBundle mapping fromStr json verifier bundle ⟨time, posture⟩ =
        .ok artifacts ↔
      ∃ online, verifyJsonStrWithBundle mapping fromStr json verifier bundle ⟨time, .online⟩ =
          .ok online ∧
        (∀ record ∈ online.verifiedGrant.metadata.revocation.checkedRecord,
          posture.SatisfiedBy record) ∧
        artifacts = online.underPosture posture := by
  simp only [verifyJsonStrWithBundle, verifyJsonStrWithSources, Results.bind_ok_iff,
    verify_raw_document_with_sources_ok_iff, last_stage_under_posture_iff posture]
  constructor
  · rintro ⟨rawDocument, read, document, signerBinding, rawTransitions, transitions, ownership,
      revocation, validated, resolved, supplied, verified, established, checked, online, accepted,
      satisfied, rfl⟩
    exact ⟨online, ⟨rawDocument, read, document, signerBinding, rawTransitions, transitions,
      ownership, revocation, validated, resolved, supplied,
      (transitions_under_posture bundle _ _ _).trans verified, established, checked, accepted⟩,
      satisfied, rfl⟩
  · rintro ⟨online, ⟨rawDocument, read, document, signerBinding, rawTransitions, transitions,
      ownership, revocation, validated, resolved, supplied, verified, established, checked,
      accepted⟩, satisfied, rfl⟩
    exact ⟨rawDocument, read, document, signerBinding, rawTransitions, transitions, ownership,
      revocation, validated, resolved, supplied,
      (transitions_under_posture bundle _ _ _).trans verified, established, checked, online,
      accepted, satisfied, rfl⟩

end TrustGrant
