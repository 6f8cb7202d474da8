import TrustGrant.Verify.Acceptance
import TrustGrant.Verify.Bundle

/-!
# Soundness of the pipeline

Eight entry points lead into one last stage. They differ in where the document is read
from, and in whether the metadata is supplied or resolved from sources. Whatever is
returned by any of them went through every check.

The calls of the entry points are values of one type, and a single structure says what a
call went through. Each way to the last stage, and that stage itself, is inverted once.
-/

namespace TrustGrant

open Rust Limits Library

/-- `RawTrustGrantDocument::parse_json_bytes`. -/
def RawTrustGrantDocument.parseJsonBytes (fromSlice : ByteArray → Option RawTrustGrantDocument)
    (bytes : ByteArray) : Except TrustGrantError RawTrustGrantDocument := do
  ensureJsonSize "trustgrant" bytes.size maxTrustgrantJsonBytes
  Results.okOr (fromSlice bytes) .invalidJsonDocument

/-- `serde_json::from_str` and `serde_json::from_slice` at the type of wire documents. -/
structure DocumentReaders where
  fromStr : String → Option RawTrustGrantDocument
  fromSlice : ByteArray → Option RawTrustGrantDocument

variable (mapping : Text.CaseMapping) (readers : DocumentReaders) (verifier : SignatureVerifier)

/-- `VerificationPipeline::verify_json_str`. -/
def verifyJsonStr (json : String) (metadata : VerificationMetadata) :
    Except TrustGrantError VerificationArtifacts := do
  let rawDocument ← RawTrustGrantDocument.parseJsonStr readers.fromStr json
  verifyRawDocument mapping rawDocument verifier metadata

/-- `VerificationPipeline::verify_json_bytes`. -/
def verifyJsonBytes (bytes : ByteArray) (metadata : VerificationMetadata) :
    Except TrustGrantError VerificationArtifacts := do
  let rawDocument ← RawTrustGrantDocument.parseJsonBytes readers.fromSlice bytes
  verifyRawDocument mapping rawDocument verifier metadata

/-- `VerificationPipeline::verify_json_bytes_with_sources`. -/
def verifyJsonBytesWithSources (bytes : ByteArray) (sources : VerificationSources)
    (context : VerificationContext) : Except TrustGrantError VerificationArtifacts := do
  let rawDocument ← RawTrustGrantDocument.parseJsonBytes readers.fromSlice bytes
  verifyRawDocumentWithSources mapping rawDocument verifier sources context

/-- `VerificationPipeline::verify_json_bytes_with_bundle`. -/
def verifyJsonBytesWithBundle (bytes : ByteArray) (bundle : TrustGrantProofBundle)
    (context : VerificationContext) : Except TrustGrantError VerificationArtifacts :=
  verifyJsonBytesWithSources mapping readers verifier bytes bundle.asSources context

/-- A call of one of the entry points. They read a text, bytes or a wire document, and the
evidence is metadata, sources or a bundle. -/
inductive PipelineCall where
  | jsonStr (json : String) (metadata : VerificationMetadata)
  | jsonBytes (bytes : ByteArray) (metadata : VerificationMetadata)
  | jsonStrWithSources (json : String) (sources : VerificationSources)
      (context : VerificationContext)
  | jsonBytesWithSources (bytes : ByteArray) (sources : VerificationSources)
      (context : VerificationContext)
  | jsonStrWithBundle (json : String) (bundle : TrustGrantProofBundle)
      (context : VerificationContext)
  | jsonBytesWithBundle (bytes : ByteArray) (bundle : TrustGrantProofBundle)
      (context : VerificationContext)
  | rawDocument (rawDocument : RawTrustGrantDocument) (metadata : VerificationMetadata)
  | rawDocumentWithSources (rawDocument : RawTrustGrantDocument) (sources : VerificationSources)
      (context : VerificationContext)

/-- Where the metadata of a call comes from. -/
inductive Evidence where
  | metadata (metadata : VerificationMetadata)
  | sources (sources : VerificationSources) (context : VerificationContext)

namespace PipelineCall

/-- The answer to a call. Each case is the entry point of its name. -/
def run : PipelineCall → Except TrustGrantError VerificationArtifacts
  | .jsonStr json metadata => verifyJsonStr mapping readers verifier json metadata
  | .jsonBytes bytes metadata => verifyJsonBytes mapping readers verifier bytes metadata
  | .jsonStrWithSources json sources context =>
    verifyJsonStrWithSources mapping readers.fromStr json verifier sources context
  | .jsonBytesWithSources bytes sources context =>
    verifyJsonBytesWithSources mapping readers verifier bytes sources context
  | .jsonStrWithBundle json bundle context =>
    verifyJsonStrWithBundle mapping readers.fromStr json verifier bundle context
  | .jsonBytesWithBundle bytes bundle context =>
    verifyJsonBytesWithBundle mapping readers verifier bytes bundle context
  | .rawDocument raw metadata => verifyRawDocument mapping raw verifier metadata
  | .rawDocumentWithSources raw sources context =>
    verifyRawDocumentWithSources mapping raw verifier sources context

/-- The document that a call is about. -/
def document : PipelineCall → Except TrustGrantError RawTrustGrantDocument
  | .jsonStr json _ | .jsonStrWithSources json _ _ | .jsonStrWithBundle json _ _ =>
    RawTrustGrantDocument.parseJsonStr readers.fromStr json
  | .jsonBytes bytes _ | .jsonBytesWithSources bytes _ _ | .jsonBytesWithBundle bytes _ _ =>
    RawTrustGrantDocument.parseJsonBytes readers.fromSlice bytes
  | .rawDocument raw _ | .rawDocumentWithSources raw _ _ => .ok raw

/-- What a call is given besides the document. -/
def evidence : PipelineCall → Evidence
  | .jsonStr _ metadata | .jsonBytes _ metadata | .rawDocument _ metadata => .metadata metadata
  | .jsonStrWithSources _ sources context | .jsonBytesWithSources _ sources context
  | .rawDocumentWithSources _ sources context => .sources sources context
  | .jsonStrWithBundle _ bundle context | .jsonBytesWithBundle _ bundle context =>
    .sources bundle.asSources context

end PipelineCall

/-- The verification that a call leads to. -/
def Evidence.verify (rawDocument : RawTrustGrantDocument) :
    Evidence → Except TrustGrantError VerificationArtifacts
  | .metadata supplied => verifyRawDocument mapping rawDocument verifier supplied
  | .sources given context =>
    verifyRawDocumentWithSources mapping rawDocument verifier given context

/-- Every entry point reads its document, then verifies it. -/
theorem PipelineCall.run_eq (call : PipelineCall) :
    call.run mapping readers verifier =
      call.document readers >>= fun rawDocument =>
        call.evidence.verify mapping verifier rawDocument := by
  cases call <;> rfl

/-- What a posture asks of revocation evidence. -/
def SufficesFor (record : RevocationRecord) : VerificationPosture → Prop
  | .online => ProofFinality.observed.rank ≤ record.finality.rank
  | .cached | .offline => record.sourceKind.isNonLive = true ∧
    ProofFinality.trustedSnapshot.rank ≤ record.finality.rank

/-- What the steps in front of the last stage established of the metadata: it is what was
supplied, or every source answered with a part of it. -/
def EvidenceGave (metadata : VerificationMetadata) (document : ValidatedTrustGrantDocument) :
    Evidence → Prop
  | .metadata supplied => metadata = supplied
  | .sources sources context =>
    metadata.verifiedAt = context.verifiedAt ∧ metadata.posture = context.posture ∧
    sources.discoverySource document.issuerAuthority document.keyId document.issuerPrincipal
      context = .ok metadata.signerBinding ∧
    (∃ rawTransitions transitions,
      sources.ownershipSource document context = .ok rawTransitions ∧
      rawTransitions.mapM (fun rawTransition => do
        let verified ← verifyRawTransition mapping rawTransition verifier
          sources.discoverySource context
        return verified.record) = .ok transitions ∧
      verifyDocumentOwnership document transitions context.verifiedAt = .ok metadata.ownership) ∧
    ∀ record, metadata.revocation = .checked record →
      sources.revocationSource document metadata.signerBinding context = .ok record

/-- Everything that is established of a returned grant. The fields are the checks of all stages,
stated about the wire document, the evidence and the returned artifacts. -/
structure WentThrough (rawDocument : RawTrustGrantDocument) (evidence : Evidence)
    (document : ValidatedTrustGrantDocument) (artifacts : VerificationArtifacts) : Prop where
  validated : ValidatedTrustGrantDocument.tryFrom mapping rawDocument = .ok document
  normalized : artifacts.verifiedGrant.document = .ofValidated document
  issuer : artifacts.verifiedGrant.metadata.signerBinding.issuerAuthority =
    document.issuerAuthority
  keyId : artifacts.verifiedGrant.metadata.signerBinding.keyRecord.keyId = document.keyId
  principal : (artifacts.verifiedGrant.metadata.signerBinding.delegatedPrincipal.map
    fun bound => (bound.kind, bound.id)) =
      document.issuerPrincipal.map fun named => (named.kind, named.id)
  active : artifacts.verifiedGrant.metadata.signerBinding.keyRecord.notBefore ≤
      artifacts.verifiedGrant.metadata.verifiedAt ∧
    artifacts.verifiedGrant.metadata.verifiedAt ≤
      artifacts.verifiedGrant.metadata.signerBinding.keyRecord.notAfter
  origin : artifacts.verifiedGrant.metadata.ownership.originAuthority =
    document.ownershipAuthorityState.originAuthority
  owner : artifacts.verifiedGrant.metadata.ownership.activeOwningAuthority =
    document.ownershipAuthorityState.activeOwningAuthority
  revocable : (∃ policy ∈ document.revocation, policy.revocable = true) →
    ∃ record, artifacts.verifiedGrant.metadata.revocation = .checked record ∧
      artifacts.verifiedGrant.metadata.verifiedAt ≤ record.freshUntil ∧
      SufficesFor record artifacts.verifiedGrant.metadata.posture
  nonRevocable : artifacts.verifiedGrant.metadata.revocation = .nonRevocable →
    ¬ ∃ policy ∈ document.revocation, policy.revocable = true
  canonical : canonicalizeTrustgrant rawDocument .rfc8785 = .ok artifacts.canonicalBytes
  signed : verifier ⟨artifacts.canonicalBytes.bytes, .rfc8785,
    artifacts.verifiedGrant.metadata.signerBinding, document.signature⟩ = .ok ()
  evidence : EvidenceGave mapping verifier artifacts.verifiedGrant.metadata document evidence

variable {mapping readers verifier}

/-- The principals agree in kind and name, or there is none. -/
theorem same_principal_iff (bound : Option DelegatedPrincipalRef)
    (named : Option ValidatedPrincipal) :
    samePrincipal bound named = true ↔
      (bound.map fun principal => (principal.kind, principal.id)) =
        named.map fun principal => (principal.kind, principal.id) := by
  cases bound <;> cases named <;> simp [samePrincipal]

/-- Acceptable evidence suffices for the posture. The posture asks for a rank of the source and
one of its finality, and the postures are gone through in turn. -/
theorem suffices_of_acceptable {metadata : VerificationMetadata} {record : RevocationRecord}
    (acceptable : RevocationAcceptable metadata record) :
    SufficesFor record metadata.posture := by
  have source := acceptable.source
  have finality := acceptable.finality
  cases posture : metadata.posture with
  | online =>
    rw [posture] at finality
    have ranked : ProofFinality.observed.rank ≤ record.finality.rank := of_decide_eq_true finality
    exact ranked
  | cached =>
    rw [posture] at source finality
    have ranked : ProofFinality.trustedSnapshot.rank ≤ record.finality.rank :=
      of_decide_eq_true finality
    exact ⟨source, ranked⟩
  | offline =>
    rw [posture] at source finality
    have ranked : ProofFinality.trustedSnapshot.rank ≤ record.finality.rank :=
      of_decide_eq_true finality
    exact ⟨source, ranked⟩

/-- A grant is checked exactly when it has a policy that says it can be revoked. -/
theorem requires_revocation_check_iff (document : ValidatedTrustGrantDocument) :
    requiresRevocationCheck document = true ↔
      ∃ policy ∈ document.revocation, policy.revocable = true := by
  rw [requiresRevocationCheck, Option.any_eq_true_iff_get]
  cases document.revocation <;> simp

/-- There is one profile, and its bytes are the signed ones. -/
theorem canonicalize_trustgrant_eq (rawDocument : RawTrustGrantDocument) :
    canonicalizeTrustgrant rawDocument .rfc8785 = .ok ⟨signedBytes rawDocument⟩ :=
  rfl

/-- What the last stage establishes, for metadata that the steps before it gave. Both ways of
giving evidence end here, so the entry points share this lemma. -/
theorem went_through_of_last_stage {rawDocument : RawTrustGrantDocument} {evidence : Evidence}
    {document : ValidatedTrustGrantDocument} {metadata : VerificationMetadata}
    {artifacts : VerificationArtifacts}
    (validated : ValidatedTrustGrantDocument.tryFrom mapping rawDocument = .ok document)
    (gave : EvidenceGave mapping verifier metadata document evidence)
    (lastStage : verifyImpl rawDocument document verifier metadata = .ok artifacts) :
    WentThrough mapping verifier rawDocument evidence document artifacts := by
  obtain ⟨matched, checked, acceptable, signed, rfl⟩ :=
    (verify_impl_ok_iff _ _ _ _ _).mp lastStage
  have active := matched.active
  simp only [AuthorityKeyRecord.isActiveAt, Bool.and_eq_true, decide_eq_true_eq] at active
  exact {
    validated
    normalized := rfl
    issuer := matched.issuer
    keyId := matched.keyId
    principal := (same_principal_iff _ _).mp matched.principal
    active
    origin := matched.origin
    owner := matched.owner
    revocable := fun revocable => by
      rw [(requires_revocation_check_iff document).mpr revocable] at checked
      obtain ⟨record, isChecked⟩ := Option.isSome_iff_exists.mp checked.symm
      have sufficient := acceptable record isChecked
      refine ⟨record, ?_, of_decide_eq_true sufficient.fresh, suffices_of_acceptable sufficient⟩
      show metadata.revocation = .checked record
      cases state : metadata.revocation with
      | nonRevocable =>
        rw [state] at isChecked
        cases isChecked
      | checked other =>
        rw [state] at isChecked
        exact congrArg _ (Option.some.inj isChecked)
    nonRevocable := fun state revocable => by
      change metadata.revocation = .nonRevocable at state
      rw [(requires_revocation_check_iff document).mpr revocable, state] at checked
      cases checked
    canonical := canonicalize_trustgrant_eq rawDocument
    signed := by
      dsimp only
      exact signed
    evidence := gave }

/-- Whatever the pipeline returns went through every check. Each entry point reads a document,
obtains its evidence and ends in the same last stage, so the calls are a type and the argument is
made once: what succeeded is peeled apart, and each part is one of the checks. -/
theorem pipeline_sound (call : PipelineCall) (artifacts : VerificationArtifacts)
    (returned : call.run mapping readers verifier = .ok artifacts) :
    ∃ rawDocument document, call.document readers = .ok rawDocument ∧
      WentThrough mapping verifier rawDocument call.evidence document artifacts := by
  rw [PipelineCall.run_eq, Results.bind_ok_iff] at returned
  obtain ⟨rawDocument, read, verified⟩ := returned
  cases given : call.evidence with
  | metadata metadata =>
    rw [given] at verified
    obtain ⟨document, validated, lastStage⟩ := (Results.bind_ok_iff _ _ _).mp verified
    exact ⟨rawDocument, document, read, went_through_of_last_stage validated rfl lastStage⟩
  | sources sources context =>
    rw [given] at verified
    obtain ⟨document, signerBinding, rawTransitions, transitions, ownership, revocation, validated,
      resolved, supplied, transferred, established, checked, lastStage⟩ :=
        verify_raw_document_with_sources_ok_iff.mp verified
    refine ⟨rawDocument, document, read, went_through_of_last_stage validated ?_ lastStage⟩
    refine ⟨rfl, rfl, resolved, ⟨rawTransitions, transitions, supplied, transferred, established⟩,
      fun record state => ?_⟩
    change revocation = .checked record at state
    subst state
    unfold resolveRevocation at checked
    split at checked
    · obtain ⟨answer, answered, returned⟩ := (Results.bind_ok_iff _ _ _).mp checked
      cases (Results.pure_ok_iff _ _).mp returned
      exact answered
    · cases checked

/-- A small revocable document, supplied together with a checked revocation. -/
def smallRevocableCall : PipelineCall :=
  .rawDocument { smallDocument ⟨true, none, none⟩ none none with
    revocation := some ⟨true, "e", .blockAll⟩ }
    { smallMetadata with
      posture := .cached
      revocation := .checked ⟨.active, .snapshot, .finalized, smallInstant, smallInstant⟩ }

/-- The small revocable document is returned with its checked revocation. Its evidence comes from
sources, so every part of the conclusion says something about it. -/
theorem small_revocable_went_through :
    ∃ artifacts rawDocument document,
      smallRevocableCall.document ⟨fun _ => none, fun _ => none⟩ = .ok rawDocument ∧
      WentThrough Text.asciiCaseMapping smallVerifier rawDocument smallRevocableCall.evidence
        document artifacts := by
  have returned := Results.value_of_eq (smallRevocableCall.run Text.asciiCaseMapping
    ⟨fun _ => none, fun _ => none⟩ smallVerifier) (by decide +kernel)
  exact ⟨_, pipeline_sound smallRevocableCall _ returned⟩

end TrustGrant
