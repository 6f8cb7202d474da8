import TrustGrant.Evaluate.Decision
import TrustGrant.Execute.Exits
import TrustGrant.Verify.BundleLookups
import TrustGrant.Verify.Rehydration
import TrustGrant.Verify.Soundness
import TrustGrant.Verify.WrittenDocuments

/-!
# How a revocation takes effect

A proof that a grant is revoked is put into a bundle, and no later entry replaces it. Whatever
verification returns for the grant from then on carries the revocation, evaluation refuses what
the policy of the grant blocks, and so the executor applies none of it. What the policy does not
block is decided as if the grant were not revoked.

The chain of lemmas follows the proof from the bundle to the executor: it is found under its
grant, becomes the record of the verified grant, is seen by the evaluation, and so decides
about the call. Each link is a result of an earlier module.
-/

namespace TrustGrant

open Rust Library Library.OrderedChecks InMemoryAtomicInventoryExecutor TrustGrantProofBundle

/-- The same grant with another revocation status. -/
def VerifiedTrustGrant.withStatus (grant : VerifiedTrustGrant) (record : RevocationRecord)
    (status : RevocationStatus) : VerifiedTrustGrant :=
  { grant with metadata := { grant.metadata with revocation := .checked { record with status } } }

/-- The policy of the grant blocks mints only. -/
def BlocksMintingOnly (grant : VerifiedTrustGrant) : Prop :=
  ∃ policy ∈ grant.document.revocation, policy.postRevocationEffect = .blockMintingOnly

/-- What follows for a revoked grant: whatever is allowed or applied is no mint, and only under a
policy that blocks nothing else. Under such a policy the rest is decided as for an active
grant. -/
structure RevocationInEffect (grant : VerifiedTrustGrant) (record : RevocationRecord) : Prop where
  allowed : ∀ request, (evaluate grant request).decision.isAllowed = true →
    request.operation.isMint = false ∧ BlocksMintingOnly grant
  applied : ∀ {ε τ : Type} (state : InMemoryExecutionState) (request : MutationRequest)
    (apply : Mutation ε τ) (environment : ε) (authorization : MutationAuthorization) (value : τ),
    (authorizeAndExecute state grant request apply environment).1 =
        .ok (.applied authorization value) →
      request.isMint = false ∧ BlocksMintingOnly grant
  kept : ∀ request, request.operation.isMint = false → BlocksMintingOnly grant →
    (evaluate grant request).decision =
      (evaluate (grant.withStatus record .active) request).decision

variable {grant : VerifiedTrustGrant} {record : RevocationRecord}

/-- A request that is allowed on a revoked grant is no mint, and the policy blocks mints only.
The requirement on the status says so. -/
theorem allowed_when_revoked (checked : grant.metadata.revocation = .checked record)
    (revoked : record.status = .revoked) (request : EvaluationRequest)
    (allowed : (evaluate grant request).decision.isAllowed = true) :
    request.operation.isMint = false ∧ BlocksMintingOnly grant := by
  rw [allowed_iff_requirements] at allowed
  simp only [requirements, hold_append] at allowed
  obtain ⟨⟨⟨⟨⟨⟨⟨⟨⟨-, revocation⟩, -⟩, -⟩, -⟩, -⟩, -⟩, -⟩, -⟩, -⟩ := allowed
  have notRevoked := ((hold_cons _ _).mp ((hold_cons _ _).mp revocation).2).1
  exact notRevoked record checked revoked

/-- Only what is allowed is applied. A denied call ends before its closure runs. -/
theorem allowed_of_applied {ε τ : Type} (state : InMemoryExecutionState)
    (request : MutationRequest) (apply : Mutation ε τ) (environment : ε)
    (authorization : MutationAuthorization) (value : τ)
    (applied : (authorizeAndExecute state grant request apply environment).1 =
      .ok (.applied authorization value)) :
    (evaluate grant (evaluationRequest state grant request)).decision.isAllowed = true := by
  have left := exit state grant request apply environment
  rw [applied] at left
  cases left with
  | applied _ transaction _ _ fresh allowed _ _ => exact allowed

/-- The operation of a mutation is the one that is evaluated. -/
theorem evaluated_operation (state : InMemoryExecutionState) (request : MutationRequest) :
    (evaluationRequest state grant request).operation.isMint = request.isMint := by
  obtain ⟨mintContext, same⟩ := evaluation_request_fields state grant request
  rw [same]
  rfl

/-- Under a policy that blocks mints only, the other requests are decided without regard to the
status. -/
theorem decided_as_active (checked : grant.metadata.revocation = .checked record)
    (request : EvaluationRequest) (notMint : request.operation.isMint = false)
    (mintsOnly : BlocksMintingOnly grant) :
    (evaluate grant request).decision =
      (evaluate (grant.withStatus record .active) request).decision := by
  have revocation : List.Forall₂ SameCheck (revocationChecks grant request)
      (revocationChecks (grant.withStatus record .active) request) := by
    refine .cons ⟨?_, rfl⟩ (.cons ⟨?_, rfl⟩ .nil)
    · constructor
      · rintro fresh other ⟨⟩
        exact fresh record checked
      · rintro fresh other isOther
        obtain rfl := VerifiedRevocationState.checked.inj (checked.symm.trans isOther)
        exact fresh { record with status := .active } rfl
    · exact iff_of_true (fun _ _ _ => ⟨notMint, mintsOnly⟩) fun _ _ _ => ⟨notMint, mintsOnly⟩
  have same : List.Forall₂ SameCheck (requirements grant request)
      (requirements (grant.withStatus record .active) request) := by
    simp only [requirements, List.append_assoc]
    refine List.rel_append (List.forall₂_same.mpr fun _ _ => ⟨Iff.rfl, rfl⟩)
      (List.rel_append revocation ?_)
    exact List.forall₂_same.mpr fun _ _ => ⟨Iff.rfl, rfl⟩
  exact decision_congr grant (grant.withStatus record .active) request request rfl same

/-- A checked record that says revoked puts its policy into effect. An allowed request passed the
check of the status, so it does not mint and the policy blocks mints only; for such a request the
status is not asked for, and it is decided as with an active record. -/
theorem revocation_in_effect (checked : grant.metadata.revocation = .checked record)
    (revoked : record.status = .revoked) : RevocationInEffect grant record where
  allowed := allowed_when_revoked checked revoked
  applied := by
    intro ε τ state request apply environment authorization value applied
    have allowed := allowed_of_applied state request apply environment authorization value applied
    have operation : (evaluationRequest state grant request).operation.isMint = request.isMint :=
      evaluated_operation state request
    rw [← operation]
    exact allowed_when_revoked checked revoked _ allowed
  kept := decided_as_active checked

/-- A record has the status that was proved. The conversion computes how long it is fresh and
takes the rest over. -/
theorem status_of_record (proof : RevocationStatusProof) (sourceKind : RevocationSourceKind)
    (finality : ProofFinality) (policy : RevocationFreshnessPolicy)
    (made : proof.intoRecord sourceKind finality policy = .ok record) :
    record.status = proof.status := by
  obtain ⟨⟨⟩, -, remaining⟩ := (Results.bind_ok_iff _ _ _).mp made
  obtain ⟨duration, -, remaining⟩ := (Results.bind_ok_iff _ _ _).mp remaining
  obtain ⟨freshUntil, -, remaining⟩ := (Results.bind_ok_iff _ _ _).mp remaining
  obtain ⟨⟨⟩, -, returned⟩ := (Results.bind_ok_iff _ _ _).mp remaining
  obtain rfl := (Results.pure_ok_iff _ _).mp returned
  rfl

/-- Verification of a revocable grant reads the proof that the bundle holds for it. The state
that it leaves in the grant is the record made from this proof, with its status. -/
theorem record_of_held_proof {mapping : Text.CaseMapping} {verifier : SignatureVerifier}
    {context : VerificationContext} {bundle : TrustGrantProofBundle}
    (rawDocument : RawTrustGrantDocument) (artifacts : VerificationArtifacts)
    (accepted : verifyRawDocumentWithSources mapping rawDocument verifier bundle.asSources
      context = .ok artifacts)
    (revocable : ∃ policy ∈ artifacts.verifiedGrant.document.revocation, policy.revocable = true)
    (proof : BundleRevocationProof)
    (held : bundle.find (.revocation artifacts.verifiedGrant.id) = some (.revocationProof proof)) :
    ∃ record, artifacts.verifiedGrant.metadata.revocation = .checked record ∧
      record.status = proof.proof.status := by
  obtain ⟨document, signerBinding, rawTransitions, transitions, ownership, revocation, -, -, -, -,
    -, checked, lastStage⟩ := verify_raw_document_with_sources_ok_iff.mp accepted
  obtain ⟨-, -, -, -, rfl⟩ := (verify_impl_ok_iff _ _ _ _ _).mp lastStage
  have needed : requiresRevocationCheck document = true :=
    (requires_revocation_check_iff document).mpr revocable
  rw [resolveRevocation, if_pos needed] at checked
  obtain ⟨record, answered, returned⟩ := (Results.bind_ok_iff _ _ _).mp checked
  obtain rfl := (Results.pure_ok_iff _ _).mp returned
  obtain ⟨other, found, recorded⟩ := (Results.bind_ok_iff _ _ _).mp answered
  rw [Results.ok_or_ok_iff] at found
  obtain ⟨⟨⟩, -, made⟩ := (Results.bind_ok_iff _ _ _).mp recorded
  have same : bundle.find (.revocation document.lineage.trustgrantId) =
      some (.revocationProof other) := congrArg (Option.map BundleEntry.revocationProof) found
  obtain rfl : other = proof :=
    BundleEntry.revocationProof.inj (Option.some.inj (same.symm.trans held))
  exact ⟨record, rfl, status_of_record _ _ _ _ made⟩

/-- A revocation takes effect: once a bundle holds the proof that a grant is revoked, whatever is
inserted later, every verification of the revocable grant against the bundle returns it as
revoked. On what is returned nothing is allowed and nothing applied that its policy blocks, and
what the policy does not block is decided as for an active grant.

Proof: the insertions that come later keep the proof, the verification finds it and turns it into
the record of the grant, and the status of a record is the one that was proved. What the
evaluation makes of a revoked record is decided by the requirement on the status alone. -/
theorem revocation_takes_effect (mapping : Text.CaseMapping)
    (fromStr : String → Option RawTrustGrantDocument) (json : String)
    (verifier : SignatureVerifier) (context : VerificationContext)
    (entries later : List BundleEntry) (proof : BundleRevocationProof)
    (held : (assembled entries).find (.revocation proof.proof.trustgrantId) =
      some (.revocationProof proof))
    (revoked : proof.proof.status = .revoked) (artifacts : VerificationArtifacts)
    (accepted : verifyJsonStrWithBundle mapping fromStr json verifier (assembled (entries ++ later))
      context = .ok artifacts)
    (ofGrant : artifacts.verifiedGrant.id = proof.proof.trustgrantId)
    (revocable : ∃ policy ∈ artifacts.verifiedGrant.document.revocation,
      policy.revocable = true) :
    ∃ record, artifacts.verifiedGrant.metadata.revocation = .checked record ∧
      record.status = .revoked ∧ RevocationInEffect artifacts.verifiedGrant record := by
  obtain ⟨rawDocument, -, acceptedRaw⟩ := (Results.bind_ok_iff _ _ _).mp accepted
  have kept : (assembled (entries ++ later)).find (.revocation artifacts.verifiedGrant.id) =
      some (.revocationProof proof) := by
    rw [ofGrant]
    exact KeyedStore.run_kept store_lawful entries later (.revocationProof proof)
      (.revocation proof.proof.trustgrantId) held
  obtain ⟨record, checked, status⟩ :=
    record_of_held_proof rawDocument artifacts acceptedRaw revocable proof kept
  have isRevoked : record.status = .revoked := status.trans revoked
  exact ⟨record, checked, isRevoked, revocation_in_effect checked isRevoked⟩

/-! ## A small revoked grant for a closed instance -/

/-- The small revocable document, whose policy blocks mints only. -/
abbrev smallRevoked : RawTrustGrantDocument := smallRevocable .blockMintingOnly

/-- A proof of a status of the small revocable document. -/
def smallStatus (status : RevocationStatus) : BundleRevocationProof :=
  ⟨⟨Results.valueOf (TrustGrantId.fromStr smallRevoked.trustgrantId) (by decide +kernel), status,
    smallInstant⟩, .api, .finalized, ⟨60, 60, by decide, by decide⟩⟩

/-- The discovery document of the issuer, and a proof that the small document is revoked. -/
def smallRevocation : List BundleEntry :=
  [.discoveryDocument (Results.valueOf (AuthorityDiscoveryDocument.tryFrom Text.asciiCaseMapping
    ⟨"did:i", [⟨"k", "a", "p", smallInstant, smallInstant⟩], ⟨"f", "RFC8785"⟩, none, none,
      smallInstant, none⟩) (by decide +kernel)), .revocationProof (smallStatus .revoked)]

/-- A bundle that holds the revocation, after a proof that the document is active was supplied. -/
abbrev smallRevokedBundle : TrustGrantProofBundle :=
  assembled (smallRevocation ++ [.revocationProof (smallStatus .active)])

/-- The revoked grant is accepted, since a revocation does not end the verification. -/
theorem small_revoked_returned :
    (verifyRawDocumentWithSources Text.asciiCaseMapping smallRevoked smallVerifier
      smallRevokedBundle.asSources smallContext).isOk = true := by
  decide +kernel

/-- The revocation of the small document takes effect, though a proof that it is active is
supplied later. -/
theorem small_document_revoked :
    ∃ artifacts record, verifyJsonStrWithBundle Text.asciiCaseMapping
        (RawTrustGrantDocument.fromStr readSmallInstant
          (readTreeText smallRevoked.toValue.toTree)) smallRevoked.toJsonString smallVerifier
          smallRevokedBundle smallContext = .ok artifacts ∧
      artifacts.verifiedGrant.metadata.revocation = .checked record ∧
      record.status = .revoked ∧ RevocationInEffect artifacts.verifiedGrant record := by
  have read : RawTrustGrantDocument.parseJsonStr (RawTrustGrantDocument.fromStr readSmallInstant
      (readTreeText smallRevoked.toValue.toTree)) smallRevoked.toJsonString =
        .ok smallRevoked :=
    small_grant_parsed smallRevoked _ (read_tree_text _) (by decide +kernel) (by decide +kernel)
  have accepted : verifyJsonStrWithBundle Text.asciiCaseMapping _ smallRevoked.toJsonString
      smallVerifier smallRevokedBundle smallContext =
        .ok (Results.valueOf _ small_revoked_returned) :=
    (Results.bind_ok_iff _ _ _).mpr
      ⟨smallRevoked, read, Results.value_of_eq _ small_revoked_returned⟩
  obtain ⟨record, inEffect⟩ := revocation_takes_effect Text.asciiCaseMapping _
    smallRevoked.toJsonString smallVerifier smallContext smallRevocation
    [.revocationProof (smallStatus .active)] (smallStatus .revoked) (by decide +kernel) rfl _
    accepted (by decide +kernel) (by decide +kernel)
  exact ⟨_, record, accepted, inEffect⟩

end TrustGrant
