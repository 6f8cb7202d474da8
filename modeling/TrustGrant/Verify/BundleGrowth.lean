import TrustGrant.Verify.AcceptanceTimes
import TrustGrant.Verify.BundleLookups
import TrustGrant.Verify.Rivals

/-!
# Growing bundles

Insertions never replace an entry, so a bundle only learns. An accepted verification found
an entry under every key it looked up, with one exception: a grant whose owner is the origin
of its resources is accepted without a chain. Hence an acceptance survives any further
insertions, unless a chain is supplied later for a grant that was accepted without one.

The proof goes through the lookups of a verification: a computation that found everything it
looked up gives the same result on every store that answers the same, and a bundle with more
entries answers the same where this one found something.
-/

namespace TrustGrant

open Rust Limits Library

namespace TrustGrantProofBundle

variable {mapping : Text.CaseMapping} {verifier : SignatureVerifier}
  {context : VerificationContext} {bundle : TrustGrantProofBundle}

/-- Something is found under every key. -/
def Found (bundle : TrustGrantProofBundle) (lookups : List BundleKey) : Prop :=
  ∀ key ∈ lookups, bundle.find key ≠ none

/-- A resolved signer was found, and so was its principal. So a bundle with more entries, which
finds what this one finds, resolves the signer as well. -/
theorem signer_found (authority : AuthorityId) (keyId : KeyId)
    (principal : Option ValidatedPrincipal) (signerBinding : ResolvedSignerBinding)
    (resolved : bundle.resolveSignerBinding authority keyId principal context =
      .ok signerBinding) : bundle.Found (bundle.signerLookups authority principal) := by
  obtain ⟨document, located, remaining⟩ := (Results.bind_ok_iff _ _ _).mp resolved
  rw [Results.ok_or_ok_iff] at located
  have discovered : bundle.find (.discovery authority) ≠ none := by simp [find, located]
  intro key looked
  unfold signerLookups at looked
  rw [located] at looked
  cases principal with
  | none =>
    obtain rfl : key = .discovery authority := by simpa using looked
    exact discovered
  | some principal =>
    obtain ⟨⟨⟩, delegates, remaining⟩ := (Results.bind_ok_iff _ _ _).mp remaining
    rw [Results.reject_if_ok_iff] at delegates
    obtain ⟨delegated, present, -⟩ := (Results.bind_ok_iff _ _ _).mp remaining
    rw [Results.ok_or_ok_iff] at present
    have undelegated := Bool.eq_false_iff.mpr delegates
    simp only [undelegated, Bool.false_eq_true, if_false, List.mem_cons, List.not_mem_nil,
      or_false] at looked
    rcases looked with rfl | rfl
    · exact discovered
    · simp [find, present]

/-- Both signers of a verified transition were found. Their keys are resolved before anything
else is looked at. -/
theorem transition_found (rawTransition : RawOwnershipTransitionDocument)
    (verified : VerifiedOwnershipTransition)
    (accepted : verifyRawTransition mapping rawTransition verifier bundle.resolveSignerBinding
      context = .ok verified) :
    bundle.Found (bundle.transitionLookups mapping context rawTransition) := by
  obtain ⟨document, validated, remaining⟩ := (Results.bind_ok_iff _ _ _).mp accepted
  obtain ⟨predecessor, predecessorResolved, remaining⟩ := (Results.bind_ok_iff _ _ _).mp remaining
  obtain ⟨successor, successorResolved, -⟩ := (Results.bind_ok_iff _ _ _).mp remaining
  intro key looked
  simp only [transitionLookups, validated, predecessorResolved, ReadSet.after,
    List.mem_append] at looked
  rcases looked with ofPredecessor | ofSuccessor
  · exact signer_found _ _ _ predecessor predecessorResolved key ofPredecessor
  · exact signer_found _ _ _ successor successorResolved key ofSuccessor

/-- The signers of all verified transitions were found. A chain is verified transition by
transition, and each succeeded. -/
theorem chain_found (rawTransitions : List RawOwnershipTransitionDocument)
    (transitions : List OwnershipTransitionRecord)
    (accepted : verifyTransitions mapping verifier bundle.resolveSignerBinding context
      rawTransitions = .ok transitions) :
    bundle.Found (bundle.chainLookups mapping verifier context rawTransitions) := by
  refine ReadSet.each_of_succeeded _ _ (fun key => bundle.find key ≠ none) ?_ rawTransitions
    transitions accepted
  intro rawTransition record stepped
  obtain ⟨verified, accepted, -⟩ := (Results.bind_ok_iff _ _ _).mp stepped
  exact transition_found rawTransition verified accepted

/-- A transferred grant was accepted with a chain. Without one the owner is the origin and the
record says so. -/
theorem chain_of_transferred (document : ValidatedTrustGrantDocument)
    (rawTransitions : List RawOwnershipTransitionDocument)
    (transitions : List OwnershipTransitionRecord) (ownership : OwnershipVerificationRecord)
    (supplied : bundle.resolveOwnershipTransitionChain document context = .ok rawTransitions)
    (verified : verifyTransitions mapping verifier bundle.resolveSignerBinding context
      rawTransitions = .ok transitions)
    (established : verifyDocumentOwnership document transitions context.verifiedAt =
      .ok ownership)
    (transferred : ownership.proofKind = .transitionChain) :
    bundle.find (.chain document.lineage.trustgrantId) ≠ none := by
  intro absent
  have nothing : bundle.ownershipTransitionChains.lookup document.lineage.trustgrantId = none :=
    Option.map_eq_none_iff.mp absent
  simp only [resolveOwnershipTransitionChain, nothing, Option.getD_none, Results.bind_ok_iff,
    Results.pure_ok_iff] at supplied
  obtain ⟨-, -, rfl⟩ := supplied
  obtain rfl : [] = transitions := (Results.pure_ok_iff _ _).mp verified
  rcases (verify_document_ownership_ok_iff _ _).mp established with
    ⟨-, -, rfl⟩ | ⟨last, isLast, -⟩
  · cases transferred
  · cases isLast

/-- An accepted verification found what it looked up, but perhaps the chain of a grant whose
owner is its origin. -/
theorem accepted_found (rawDocument : RawTrustGrantDocument) (artifacts : VerificationArtifacts)
    (accepted : verifyRawDocumentWithSources mapping rawDocument verifier bundle.asSources
      context = .ok artifacts) :
    ∀ key ∈ bundle.documentLookups mapping verifier context rawDocument,
      bundle.find key ≠ none ∨ key = .chain artifacts.verifiedGrant.id ∧
        artifacts.verifiedGrant.metadata.ownership.proofKind = .staticOwner := by
  obtain ⟨document, signerBinding, rawTransitions, transitions, ownership, revocation, validated,
    resolved, supplied, verified, established, checked, lastStage⟩ :=
    verify_raw_document_with_sources_ok_iff.mp accepted
  obtain ⟨-, -, -, -, rfl⟩ := (verify_impl_ok_iff _ _ _ _ _).mp lastStage
  have resolvedHere : bundle.resolveSignerBinding document.issuerAuthority document.keyId
      document.issuerPrincipal context = .ok signerBinding := resolved
  have suppliedHere : bundle.resolveOwnershipTransitionChain document context =
      .ok rawTransitions := supplied
  have verifiedHere : verifyTransitions mapping verifier bundle.resolveSignerBinding context
      rawTransitions = .ok transitions := verified
  intro key looked
  simp only [documentLookups, validated, resolvedHere, suppliedHere, verifiedHere, established,
    ReadSet.after, List.mem_append, List.mem_cons] at looked
  rcases looked with ofSigner | rfl | ofChain | ofRevocation
  · exact .inl (signer_found _ _ _ signerBinding resolvedHere key ofSigner)
  · cases proved : ownership.proofKind with
    | staticOwner => exact .inr ⟨rfl, proved⟩
    | transitionChain =>
      exact .inl (chain_of_transferred document rawTransitions transitions ownership
        suppliedHere verifiedHere established proved)
  · exact .inl (chain_found rawTransitions transitions verifiedHere key ofChain)
  · by_cases revocable : requiresRevocationCheck document = true
    · simp only [revocable, if_true, List.mem_singleton] at ofRevocation
      subst ofRevocation
      simp only [resolveRevocation, revocable, if_true] at checked
      obtain ⟨record, found, -⟩ := (Results.bind_ok_iff _ _ _).mp checked
      obtain ⟨proof, present, -⟩ := (Results.bind_ok_iff _ _ _).mp found
      rw [Results.ok_or_ok_iff] at present
      exact .inl (by simp [find, present])
    · simp [revocable] at ofRevocation

/-- Bundles only learn: a verification that was accepted against a bundle is accepted with the
same artifacts after any further insertions, successful or not, if its grant was transferred
by a chain or no chain has been supplied for it since.

Proof: the accepted verification found an entry under every key it looked up, except for the
chain of a static owner. Entries that are found stay, so the grown bundle answers the same under
these keys, and nothing else of it is read. -/
theorem accepted_in_grown_bundle (mapping : Text.CaseMapping)
    (fromStr : String → Option RawTrustGrantDocument) (json : String)
    (verifier : SignatureVerifier) (context : VerificationContext)
    (entries later : List BundleEntry) (artifacts : VerificationArtifacts)
    (accepted : verifyJsonStrWithBundle mapping fromStr json verifier (assembled entries) context =
      .ok artifacts)
    (settled : artifacts.verifiedGrant.metadata.ownership.proofKind = .transitionChain ∨
      (assembled (entries ++ later)).find (.chain artifacts.verifiedGrant.id) =
        (assembled entries).find (.chain artifacts.verifiedGrant.id)) :
    verifyJsonStrWithBundle mapping fromStr json verifier (assembled (entries ++ later)) context =
      .ok artifacts := by
  obtain ⟨rawDocument, read, acceptedRaw⟩ := (Results.bind_ok_iff _ _ _).mp accepted
  rw [← accepted]
  refine ReadSet.stable_of_found
    (verification_depends mapping verifier context (assembled entries) fromStr json) _
    (fun key entry present => KeyedStore.run_kept store_lawful entries later entry key present) ?_
  intro key looked
  unfold verificationLookups at looked
  rw [read] at looked
  rcases accepted_found rawDocument artifacts acceptedRaw key looked with present | ⟨rfl, static⟩
  · exact .inl present
  · rcases settled with transferred | same
    · rw [static] at transferred
      cases transferred
    · exact .inr same

/-- The discovery documents of both authorities and the chain of the transferred document. -/
def smallEntries : List BundleEntry :=
  Results.valueOf (do
    let documents ← ["did:i", "did:j"].mapM fun authority =>
      AuthorityDiscoveryDocument.tryFrom Text.asciiCaseMapping
        ⟨authority, [⟨"k", "a", "p", smallInstant, smallInstant⟩], ⟨"f", "RFC8785"⟩, none, none,
          smallInstant, none⟩
    let trustgrantId ← TrustGrantId.fromStr smallTransferred.trustgrantId
    return documents.map .discoveryDocument ++
      [.ownershipTransitionChain trustgrantId [smallTransition]]) (by decide +kernel)

/-- The chain of another grant. -/
def smallLaterEntry : BundleEntry :=
  Results.valueOf (do
    let trustgrantId ← TrustGrantId.fromStr (smallClaimedBy "did:j").trustgrantId
    return .ownershipTransitionChain trustgrantId [smallTransition]) (by decide +kernel)

/-- The handed-over grant is accepted from the bundle that the small entries assemble. -/
theorem small_entries_accept :
    (verifyRawDocumentWithSources Text.asciiCaseMapping smallTransferred smallVerifier
      (assembled smallEntries).asSources smallContext).isOk = true := by
  decide +kernel

/-- The transferred document is accepted, and still is when another chain was supplied. The chain
that comes later belongs to another grant. -/
theorem small_transferred_accepted_later :
    ∃ artifacts, verifyJsonStrWithBundle Text.asciiCaseMapping smallFromStr
      (smallJson smallTransferred) smallVerifier (assembled (smallEntries ++ [smallLaterEntry]))
        smallContext = .ok artifacts :=
  ⟨smallVerified (assembled smallEntries) smallTransferred small_entries_accept,
    accepted_in_grown_bundle Text.asciiCaseMapping smallFromStr (smallJson smallTransferred)
      smallVerifier smallContext smallEntries [smallLaterEntry] _
      (small_verified_eq (assembled smallEntries) smallTransferred (by decide +kernel)
        small_entries_accept)
      (.inl (by decide +kernel))⟩

end TrustGrantProofBundle

end TrustGrant
