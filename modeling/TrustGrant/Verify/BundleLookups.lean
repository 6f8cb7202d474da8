import TrustGrant.Library.ReadSet
import TrustGrant.Verify.BundleAssembly

/-!
# The lookups of a verification

A verification asks the bundle for the signer of the grant, for the chain of its ownership,
for both signers of each transition, and for its revocation proof when it is revocable. The
first error ends it, so what is looked up depends on what was found before. The keys are
collected along the way, and nothing else of the bundle decides the result.

The results say that a bundle decides about a verification by its answers under these keys
alone, and that the order in which its entries were inserted is not among what matters.
-/

namespace TrustGrant

open Rust Limits Library

namespace TrustGrantProofBundle

variable (mapping : Text.CaseMapping) (verifier : SignatureVerifier)
  (context : VerificationContext) (bundle : TrustGrantProofBundle)

/-- The result of a computation on bundles depends on its lookups only. -/
abbrev DependsOn {α : Type} (run : TrustGrantProofBundle → α) (bundle : TrustGrantProofBundle)
    (lookups : List BundleKey) : Prop :=
  ReadSet.DependsOn find run bundle lookups

/-- The keys looked up by `resolveSignerBinding`. A principal is looked up when the authority
delegates. -/
def signerLookups (authority : AuthorityId) (principal : Option ValidatedPrincipal) :
    List BundleKey :=
  .discovery authority ::
    match bundle.discoveryDocuments.lookup authority, principal with
    | some document, some principal =>
      if document.delegation.isNone then []
      else [.delegated authority principal.kind principal.id]
    | _, _ => []

/-- The keys looked up by `verifyRawTransition`: both parties sign for themselves. -/
def transitionLookups (rawTransition : RawOwnershipTransitionDocument) : List BundleKey :=
  ReadSet.after (ValidatedOwnershipTransitionDocument.tryFrom mapping rawTransition) fun document =>
  bundle.signerLookups document.parties.predecessorAuthority none ++
  ReadSet.after (bundle.resolveSignerBinding document.parties.predecessorAuthority
    document.predecessorSignature.keyId none context) fun _ =>
  bundle.signerLookups document.parties.successorAuthority none

/-- The keys looked up by `verifyTransitions`, up to the first transition that fails. -/
def chainLookups (rawTransitions : List RawOwnershipTransitionDocument) : List BundleKey :=
  ReadSet.each
    (fun rawTransition => do
      let verified ← verifyRawTransition mapping rawTransition verifier
        bundle.resolveSignerBinding context
      return verified.record)
    (bundle.transitionLookups mapping context) rawTransitions

/-- The keys looked up by `verifyRawDocumentWithSources`. What is looked up later depends on what
was found, so the keys are a function of the bundle. -/
def documentLookups (rawDocument : RawTrustGrantDocument) : List BundleKey :=
  ReadSet.after (ValidatedTrustGrantDocument.tryFrom mapping rawDocument) fun document =>
  bundle.signerLookups document.issuerAuthority document.issuerPrincipal ++
  ReadSet.after (bundle.resolveSignerBinding document.issuerAuthority document.keyId
    document.issuerPrincipal context) fun _ =>
  .chain document.lineage.trustgrantId ::
  ReadSet.after (bundle.resolveOwnershipTransitionChain document context) fun rawTransitions =>
  bundle.chainLookups mapping verifier context rawTransitions ++
  ReadSet.after (verifyTransitions mapping verifier bundle.resolveSignerBinding context
    rawTransitions) fun transitions =>
  ReadSet.after (verifyDocumentOwnership document transitions context.verifiedAt) fun _ =>
  if requiresRevocationCheck document then [.revocation document.lineage.trustgrantId] else []

/-- The keys looked up by `verifyJsonStrWithBundle`. -/
def verificationLookups (fromStr : String → Option RawTrustGrantDocument) (json : String) :
    List BundleKey :=
  ReadSet.after (RawTrustGrantDocument.parseJsonStr fromStr json) fun rawDocument =>
  bundle.documentLookups mapping verifier context rawDocument

/-- The entry under a key stands in the store of the key. -/
theorem discovery_of_find (other : TrustGrantProofBundle) (authority : AuthorityId)
    (same : other.find (.discovery authority) = bundle.find (.discovery authority)) :
    other.discoveryDocuments.lookup authority = bundle.discoveryDocuments.lookup authority :=
  Option.map_injective (fun _ _ equal => BundleEntry.discoveryDocument.inj equal) same

/-- Bundles that find the same under a principal look the same up for it. -/
theorem delegated_of_find (other : TrustGrantProofBundle) (authority : AuthorityId)
    (kind : PrincipalKind) (id : PrincipalId)
    (same : other.find (.delegated authority kind id) =
      bundle.find (.delegated authority kind id)) :
    other.delegatedDocuments.lookupPrincipal authority kind id =
      bundle.delegatedDocuments.lookupPrincipal authority kind id :=
  Option.map_injective (fun _ _ equal => BundleEntry.delegatedPrincipalDocument.inj equal) same

/-- Bundles that find the same under a grant look the same proof up for it. -/
theorem revocation_of_find (other : TrustGrantProofBundle) (trustgrantId : TrustGrantId)
    (same : other.find (.revocation trustgrantId) = bundle.find (.revocation trustgrantId)) :
    other.revocationProofs.lookup trustgrantId = bundle.revocationProofs.lookup trustgrantId :=
  Option.map_injective (fun _ _ equal => BundleEntry.revocationProof.inj equal) same

/-- Bundles that find the same under a grant look the same chain up for it. -/
theorem chain_of_find (other : TrustGrantProofBundle) (trustgrantId : TrustGrantId)
    (same : other.find (.chain trustgrantId) = bundle.find (.chain trustgrantId)) :
    other.ownershipTransitionChains.lookup trustgrantId =
      bundle.ownershipTransitionChains.lookup trustgrantId :=
  Option.map_injective (fun _ _ equal => (BundleEntry.ownershipTransitionChain.inj equal).2) same

/-- Resolving a signer looks up the document of the authority, and that of the principal if there
is one. -/
theorem signer_depends (authority : AuthorityId) (keyId : KeyId)
    (principal : Option ValidatedPrincipal) :
    DependsOn (fun bundle => bundle.resolveSignerBinding authority keyId principal context) bundle
      (bundle.signerLookups authority principal) := by
  intro other same
  have sameDocument := discovery_of_find bundle other authority
    (same _ (List.mem_cons_self ..))
  show other.resolveSignerBinding authority keyId principal context =
    bundle.resolveSignerBinding authority keyId principal context
  unfold resolveSignerBinding
  rw [sameDocument]
  cases located : bundle.discoveryDocuments.lookup authority with
  | none => rfl
  | some document =>
    cases principal with
    | none => rfl
    | some principal =>
      by_cases undelegated : document.delegation.isNone = true
      · simp [Results.okOr, Results.rejectIf, undelegated, bind, Except.bind]
      · have looked : .delegated authority principal.kind principal.id ∈
            bundle.signerLookups authority (some principal) := by
          simp [signerLookups, located, undelegated]
        simp only [delegated_of_find bundle other authority principal.kind principal.id
          (same _ looked)]

/-- Resolving a revocation looks up the proof of the grant. Nothing else of the bundle is
read. -/
theorem revocation_depends (document : ValidatedTrustGrantDocument)
    (signerBinding : ResolvedSignerBinding) :
    DependsOn (fun bundle => bundle.resolveRevocationRecord document signerBinding context) bundle
      [.revocation document.lineage.trustgrantId] := by
  intro other same
  have sameProof := revocation_of_find bundle other document.lineage.trustgrantId
    (same _ (List.mem_singleton.mpr rfl))
  show other.resolveRevocationRecord document signerBinding context =
    bundle.resolveRevocationRecord document signerBinding context
  unfold resolveRevocationRecord
  rw [sameProof]

/-- Resolving a chain looks up the chain of the grant. A missing chain is an answer as well, the
empty one. -/
theorem ownership_depends (document : ValidatedTrustGrantDocument) :
    DependsOn (fun bundle => bundle.resolveOwnershipTransitionChain document context) bundle
      [.chain document.lineage.trustgrantId] := by
  intro other same
  have sameChain := chain_of_find bundle other document.lineage.trustgrantId
    (same _ (List.mem_singleton.mpr rfl))
  show other.resolveOwnershipTransitionChain document context =
    bundle.resolveOwnershipTransitionChain document context
  unfold resolveOwnershipTransitionChain
  rw [sameChain]

/-- Once both signers are resolved, a transition is verified without the bundle. What is looked
up are the keys of the two parties. -/
theorem transition_depends (rawTransition : RawOwnershipTransitionDocument) :
    DependsOn (fun bundle => verifyRawTransition mapping rawTransition verifier
        bundle.resolveSignerBinding context) bundle
      (bundle.transitionLookups mapping context rawTransition) := by
  unfold verifyRawTransition transitionLookups
  refine ReadSet.bind_const _ _ _ fun document _ => ?_
  refine ReadSet.bind _ _ _ _ (signer_depends context bundle _ _ none) fun predecessor _ => ?_
  exact ReadSet.bind_last _ _ _ (signer_depends context bundle _ _ none)

/-- Verifying a chain looks up the signers of the transitions, up to the first one that fails. -/
theorem chain_depends (rawTransitions : List RawOwnershipTransitionDocument) :
    DependsOn (fun bundle => verifyTransitions mapping verifier bundle.resolveSignerBinding context
        rawTransitions) bundle
      (bundle.chainLookups mapping verifier context rawTransitions) := by
  unfold verifyTransitions chainLookups
  refine ReadSet.traverse _ _ _ fun rawTransition => ?_
  exact ReadSet.bind_last _ _ _ (transition_depends mapping verifier context bundle rawTransition)

/-- Only a revocable grant asks for its revocation proof. For another one no key is looked up. -/
theorem resolve_revocation_depends (document : ValidatedTrustGrantDocument)
    (signerBinding : ResolvedSignerBinding) :
    DependsOn (fun bundle => resolveRevocation document bundle.resolveRevocationRecord signerBinding
        context) bundle
      (if requiresRevocationCheck document then [.revocation document.lineage.trustgrantId]
        else []) := by
  unfold resolveRevocation
  by_cases revocable : requiresRevocationCheck document
  · simp only [revocable, if_true]
    exact ReadSet.bind_last _ _ _ (revocation_depends context bundle document signerBinding)
  · simp only [revocable]
    exact ReadSet.const _ _

/-- The signer comes first, then the chain and its transitions, then the revocation proof.
The bytes and the signature are checked without the bundle. -/
theorem document_depends (rawDocument : RawTrustGrantDocument) :
    DependsOn (fun bundle => verifyRawDocumentWithSources mapping rawDocument verifier
        bundle.asSources context) bundle
      (bundle.documentLookups mapping verifier context rawDocument) := by
  unfold verifyRawDocumentWithSources documentLookups
  refine ReadSet.bind_const _ _ _ fun document _ => ?_
  refine ReadSet.bind _ _ _ _ (signer_depends context bundle _ _ _) fun signerBinding _ => ?_
  refine ReadSet.bind _ _ _ _ (ownership_depends context bundle document) fun chain _ => ?_
  refine ReadSet.bind _ _ _ _ (chain_depends mapping verifier context bundle chain)
    fun transitions _ => ?_
  refine ReadSet.bind_const _ _ _ fun ownership _ => ?_
  exact ReadSet.bind_last _ _ _ (resolve_revocation_depends context bundle document signerBinding)

/-- A verification depends on its lookups only. -/
theorem verification_depends (fromStr : String → Option RawTrustGrantDocument) (json : String) :
    DependsOn (fun bundle => verifyJsonStrWithBundle mapping fromStr json verifier bundle context)
      bundle (bundle.verificationLookups mapping verifier context fromStr json) := by
  unfold verifyJsonStrWithBundle verifyJsonStrWithSources verificationLookups
  refine ReadSet.bind_const _ _ _ fun rawDocument _ => ?_
  exact document_depends mapping verifier context bundle rawDocument

/-- The bundle after some insertions into the empty one. -/
abbrev assembled (entries : List BundleEntry) : TrustGrantProofBundle := (store.run entries).1

/-- Bundles that answer alike verify alike, so the order of an assembly does not matter. When one
order succeeds the other does, and both bundles answer alike. -/
theorem verify_of_permuted (entries permuted : List BundleEntry) (same : entries.Perm permuted)
    (succeeded : store.AllSucceed entries) (fromStr : String → Option RawTrustGrantDocument)
    (json : String) :
    verifyJsonStrWithBundle mapping fromStr json verifier (assembled permuted) context =
      verifyJsonStrWithBundle mapping fromStr json verifier (assembled entries) context := by
  obtain ⟨-, alike, -⟩ := KeyedStore.all_succeed_perm store_lawful entries permuted same succeeded
  exact verification_depends mapping verifier context (assembled entries) fromStr json
    (assembled permuted) fun key _ => alike key

/-- After any insertions into the empty bundle, one more is made in place as by the call that
returns the changed bundle: when it fails nothing changes, and when it succeeds its entry is
found under its key. Every store is within its limit, a present entry can be inserted again, and
none is ever replaced. A sequence that succeeds does so in any order, with the same lookups and
the same verifications. A verification does not notice an entry under a key that it does not look
up.

Proof: the four insertions satisfy the laws of a store that never replaces, and the parts about
insertions are the library's rules for such stores. The parts about verifications follow because
a verification depends on what the bundle answers under the keys it looks up. -/
theorem assembled_in_any_order (entries : List BundleEntry) :
    (∀ entry, (assembled entries).insertInPlace entry =
      InPlace.ofResult (assembled entries) ((assembled entries).insertEntry entry)) ∧
    (∀ entry problem, ((assembled entries).insertInPlace entry).2 = .error problem →
      ((assembled entries).insertInPlace entry).1 = assembled entries) ∧
    (∀ entry, ((assembled entries).insertInPlace entry).2 = .ok () →
      ((assembled entries).insertInPlace entry).1.find entry.key = some entry) ∧
    (∀ part, (assembled entries).count part ≤ part.limit) ∧
    (∀ key entry, (assembled entries).find key = some entry →
      (assembled entries).insertInPlace entry = (assembled entries, .ok ())) ∧
    (∀ key present later, (assembled entries).find key = some present →
      (assembled (entries ++ later)).find key = some present) ∧
    (store.AllSucceed entries → ∀ permuted, entries.Perm permuted →
      store.AllSucceed permuted ∧
        (∀ key, (assembled permuted).find key = (assembled entries).find key) ∧
        ∀ mapping fromStr json verifier context,
          verifyJsonStrWithBundle mapping fromStr json verifier (assembled permuted) context =
            verifyJsonStrWithBundle mapping fromStr json verifier (assembled entries) context) ∧
    ∀ mapping fromStr json verifier context entry,
      entry.key ∉ (assembled entries).verificationLookups mapping verifier context fromStr json →
      verifyJsonStrWithBundle mapping fromStr json verifier
          ((assembled entries).insertInPlace entry).1 context =
        verifyJsonStrWithBundle mapping fromStr json verifier (assembled entries) context := by
  have sound := KeyedStore.run_sound store_lawful entries
  refine ⟨insert_in_place_result _, fun entry problem => store_lawful.failed _ entry problem,
    fun entry => KeyedStore.find_succeeded store_lawful _ entry, sound.within,
    fun key entry present => ?_,
    fun key present later => KeyedStore.run_kept store_lawful entries later present key,
    fun succeeded permuted same => ?_, fun mapping fromStr json verifier context entry apart => ?_⟩
  · have ownKey : entry.key = key := sound.keyed key entry present
    subst ownKey
    exact KeyedStore.insert_again store_lawful _ sound entry present
  · obtain ⟨succeeds, alike, -⟩ :=
      KeyedStore.all_succeed_perm store_lawful entries permuted same succeeded
    exact ⟨succeeds, alike, fun mapping fromStr json verifier context =>
      verify_of_permuted mapping verifier context entries permuted same succeeded fromStr json⟩
  · refine verification_depends mapping verifier context (assembled entries) fromStr json _ ?_
    intro key looked
    refine KeyedStore.find_other store_lawful _ entry key ?_
    rintro rfl
    exact apart looked

end TrustGrantProofBundle

end TrustGrant
