import TrustGrant.Discovery.Documents
import TrustGrant.Revocation.Proof
import TrustGrant.Verify.Pipeline
import Mathlib.Data.List.AList

/-!
# Proof bundles

A bundle holds everything that verification asks its sources for: discovery documents by
authority, documents of delegated principals by authority, kind and id, and revocation
proofs and chains of ownership transitions by the identifier of a grant. An insertion never
replaces an entry: the same entry again changes nothing and another one is refused.
-/

namespace TrustGrant

open Rust Limits Library

/-- `BTreeMap`: a bundle only looks keys up, inserts and counts, so an association list
without duplicate keys serves. -/
abbrev BundleMap (κ : Type) (ν : Type) := AList fun _ : κ => ν

/-- The number of entries. -/
def BundleMap.len {κ ν : Type} (map : BundleMap κ ν) : Nat := map.entries.length

/-- A revocation proof and how it is to be read. -/
structure BundleRevocationProof where
  proof : RevocationStatusProof
  sourceKind : RevocationSourceKind
  finality : ProofFinality
  freshnessPolicy : RevocationFreshnessPolicy
deriving DecidableEq

/-- `to_record_for`: the proof must be about this grant; its freshness is computed from the
policy that came with it. -/
def BundleRevocationProof.toRecordFor (bundled : BundleRevocationProof)
    (trustgrantId : TrustGrantId) : Except TrustGrantError RevocationRecord := do
  Results.rejectIf (bundled.proof.trustgrantId ≠ trustgrantId) .revocationProofGrantMismatch
  bundled.proof.intoRecord bundled.sourceKind bundled.finality bundled.freshnessPolicy

/-- The documents of delegated principals by authority, kind and id. -/
abbrev DelegatedDocuments :=
  BundleMap AuthorityId (BundleMap PrincipalKind (BundleMap PrincipalId
    DelegatedPrincipalKeyDocument))

/-- Everything that is needed to verify grants without a network: documents, proofs and chains,
each under its key. -/
structure TrustGrantProofBundle where
  discoveryDocuments : BundleMap AuthorityId AuthorityDiscoveryDocument
  delegatedDocuments : DelegatedDocuments
  revocationProofs : BundleMap TrustGrantId BundleRevocationProof
  ownershipTransitionChains : BundleMap TrustGrantId (List RawOwnershipTransitionDocument)

/-- The document about one principal, looked up in three steps. -/
def DelegatedDocuments.lookupPrincipal (documents : DelegatedDocuments)
    (authority : AuthorityId) (kind : PrincipalKind) (id : PrincipalId) :
    Option DelegatedPrincipalKeyDocument := do
  let principalKinds ← documents.lookup authority
  let principalIds ← principalKinds.lookup kind
  principalIds.lookup id

/-- The documents of all authorities and kinds. -/
def delegatedDocumentCount (documents : DelegatedDocuments) : Nat :=
  documents.entries.foldl (fun total principalKinds =>
    principalKinds.2.entries.foldl (fun total principalIds => total + principalIds.2.len) total) 0

/-- What every insertion does: an equal entry is kept, another one is in conflict, and a new
one must fit. -/
def insertNew {ν α : Type} [DecidableEq ν] (bundle : α) (existing : Option ν) (entry : ν)
    (name field : String) (count maxItems : Nat) (inserted : α) : Except TrustGrantError α :=
  match existing with
  | some existing =>
    if existing = entry then .ok bundle else .error (.conflictingProofBundleEntry name)
  | none => do
    ensureCollectionLimit field (count + 1) maxItems
    return inserted

namespace TrustGrantProofBundle

/-- `TrustGrantProofBundle::new`. -/
def empty : TrustGrantProofBundle := ⟨∅, ∅, ∅, ∅⟩

/-- `insert_discovery_document`: a document may be inserted again; another one under its
authority is a conflict. -/
def insertDiscoveryDocument (bundle : TrustGrantProofBundle)
    (document : AuthorityDiscoveryDocument) : Except TrustGrantError TrustGrantProofBundle :=
  insertNew bundle (bundle.discoveryDocuments.lookup document.authorityId) document
    "discovery_document" "proof_bundle.discovery_documents" bundle.discoveryDocuments.len
    maxBundleDiscoveryDocuments
    { bundle with
      discoveryDocuments := bundle.discoveryDocuments.insert document.authorityId document }

/-- `insert_delegated_principal_document`, under the authority, the kind and the identifier. -/
def insertDelegatedPrincipalDocument (bundle : TrustGrantProofBundle)
    (document : DelegatedPrincipalKeyDocument) : Except TrustGrantError TrustGrantProofBundle :=
  let documents := bundle.delegatedDocuments
  let principalKinds := (documents.lookup document.authorityId).getD ∅
  let principalIds := (principalKinds.lookup document.principal.kind).getD ∅
  insertNew bundle
    (documents.lookupPrincipal document.authorityId document.principal.kind document.principal.id)
    document "delegated_principal_document" "proof_bundle.delegated_principal_documents"
    (delegatedDocumentCount documents) maxBundleDelegatedPrincipalDocuments
    { bundle with
      delegatedDocuments := documents.insert document.authorityId
        (principalKinds.insert document.principal.kind
          (principalIds.insert document.principal.id document)) }

/-- `insert_revocation_proof`: the proof is kept as it is; its freshness is computed when it is
resolved. -/
def insertRevocationProof (bundle : TrustGrantProofBundle) (proof : BundleRevocationProof) :
    Except TrustGrantError TrustGrantProofBundle :=
  insertNew bundle (bundle.revocationProofs.lookup proof.proof.trustgrantId) proof
    "revocation_proof" "proof_bundle.revocation_proofs" bundle.revocationProofs.len
    maxBundleRevocationProofs
    { bundle with
      revocationProofs := bundle.revocationProofs.insert proof.proof.trustgrantId proof }

/-- A chain is bounded before it is looked up. So one that is too long is refused even when it is
held already. -/
def insertOwnershipTransitionChain (bundle : TrustGrantProofBundle) (trustgrantId : TrustGrantId)
    (chain : List RawOwnershipTransitionDocument) :
    Except TrustGrantError TrustGrantProofBundle := do
  ensureCollectionLimit "ownership_transition.chain" chain.length maxOwnershipChainLength
  insertNew bundle (bundle.ownershipTransitionChains.lookup trustgrantId) chain
    "ownership_transition_chain" "proof_bundle.ownership_transition_chains"
    bundle.ownershipTransitionChains.len maxBundleOwnershipTransitionChains
    { bundle with
      ownershipTransitionChains := bundle.ownershipTransitionChains.insert trustgrantId chain }

/-- The signer is the authority itself, or the principal that the document names. The signature
profile is that of the authority in both cases. -/
def resolveSignerBinding (bundle : TrustGrantProofBundle) : AuthorityDiscoverySource :=
  fun issuerAuthority keyId issuerPrincipal _ => do
    let discoveryDocument ← Results.okOr (bundle.discoveryDocuments.lookup issuerAuthority)
      .missingAuthorityDiscoveryDocument
    match issuerPrincipal with
    | none => discoveryDocument.resolveRootSignerBinding issuerAuthority keyId
    | some issuerPrincipal =>
      Results.rejectIf (discoveryDocument.delegation.isNone = true) .delegationNotSupported
      let delegatedDocument ← Results.okOr
        (bundle.delegatedDocuments.lookupPrincipal issuerAuthority issuerPrincipal.kind
          issuerPrincipal.id) .missingDelegatedPrincipalDocument
      delegatedDocument.resolveSignerBinding issuerAuthority issuerPrincipal keyId
        discoveryDocument.signatureProfile

/-- The proof that is held under the grant, as the record that verification asks for. -/
def resolveRevocationRecord (bundle : TrustGrantProofBundle) : RevocationProofSource :=
  fun document _ _ => do
    let proof ← Results.okOr (bundle.revocationProofs.lookup document.lineage.trustgrantId)
      .missingRevocationProof
    proof.toRecordFor document.lineage.trustgrantId

/-- A grant without a chain has the empty one. -/
def resolveOwnershipTransitionChain (bundle : TrustGrantProofBundle) :
    OwnershipTransitionProofSource :=
  fun document _ => do
    let chain := (bundle.ownershipTransitionChains.lookup document.lineage.trustgrantId).getD []
    ensureCollectionLimit "ownership_transition.chain" chain.length maxOwnershipChainLength
    return chain

/-- A bundle acts as every source. -/
def asSources (bundle : TrustGrantProofBundle) : VerificationSources :=
  ⟨bundle.resolveSignerBinding, bundle.resolveRevocationRecord,
    bundle.resolveOwnershipTransitionChain⟩

end TrustGrantProofBundle

/-- `RawTrustGrantDocument::parse_json_str`. Reading JSON into the wire type is the work of
the serde library, given here as a function. -/
def RawTrustGrantDocument.parseJsonStr (fromStr : String → Option RawTrustGrantDocument)
    (json : String) : Except TrustGrantError RawTrustGrantDocument := do
  ensureJsonSize "trustgrant" (Text.len json) maxTrustgrantJsonBytes
  Results.okOr (fromStr json) .invalidJsonDocument

/-- `VerificationPipeline::verify_json_str_with_sources`. -/
def verifyJsonStrWithSources (mapping : Text.CaseMapping)
    (fromStr : String → Option RawTrustGrantDocument) (json : String)
    (verifier : SignatureVerifier) (sources : VerificationSources)
    (context : VerificationContext) : Except TrustGrantError VerificationArtifacts := do
  let rawDocument ← RawTrustGrantDocument.parseJsonStr fromStr json
  verifyRawDocumentWithSources mapping rawDocument verifier sources context

/-- `VerificationPipeline::verify_json_str_with_bundle`. -/
def verifyJsonStrWithBundle (mapping : Text.CaseMapping)
    (fromStr : String → Option RawTrustGrantDocument) (json : String)
    (verifier : SignatureVerifier) (bundle : TrustGrantProofBundle)
    (context : VerificationContext) : Except TrustGrantError VerificationArtifacts :=
  verifyJsonStrWithSources mapping fromStr json verifier bundle.asSources context

end TrustGrant
