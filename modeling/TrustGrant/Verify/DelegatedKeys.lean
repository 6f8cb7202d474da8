import TrustGrant.Discovery.RevokedKeys
import TrustGrant.Verify.Acceptance
import TrustGrant.Verify.BundleLookups
import TrustGrant.Verify.WrittenDocuments

/-!
# Who signed for an authority

A principal signs for an authority with a key that the authority lists for it. Once a bundle
holds the list of keys of a principal, no later entry replaces it, and every grant that is
accepted for the principal was signed with a key that the list does not mark as revoked.

The signer of an accepted grant is followed back to the list of its principal, and from
there to the record that was read. The list may name an identifier twice, so the key is
described by its record and not by its identifier.
-/

namespace TrustGrant

open Rust Library TrustGrantProofBundle

/-- The one key of a list that is not marked as revoked and has this identifier. -/
def OnlyActiveKey (raw : RawDelegatedPrincipalKeyDocument) (keyId : KeyId)
    (key : RawDelegatedKeyRecord) : Prop :=
  (raw.keys.filter fun listed => !listed.revoked && listed.trimmedId = keyId.value) = [key]

/-- A resolved signer has the only active key of its identifier. The active records of a document
have distinct identifiers, since the collection rejects a repetition. -/
theorem only_active_key_of_resolved {mapping : Text.CaseMapping}
    {raw : RawDelegatedPrincipalKeyDocument} {document : DelegatedPrincipalKeyDocument}
    (accepted : DelegatedPrincipalKeyDocument.tryFrom mapping raw = .ok document)
    (issuerAuthority : AuthorityId) (issuerPrincipal : ValidatedPrincipal) (keyId : KeyId)
    (signatureProfile : SignatureProfile) (binding : ResolvedSignerBinding)
    (resolved : document.resolveSignerBinding issuerAuthority issuerPrincipal keyId
      signatureProfile = .ok binding) :
    ∃ key, OnlyActiveKey raw keyId key ∧ key.record.Reads binding.keyRecord := by
  obtain ⟨key, isActive, keyIs, reads⟩ :=
    active_key_of_resolved accepted _ _ _ _ _ resolved
  have only := Deduplication.filter_key RawDelegatedKeyRecord.trimmedId raw.activeKeys
    (active_keys_distinct accepted) key isActive
  refine ⟨key, ?_, reads⟩
  rw [OnlyActiveKey, ← only, ← keyIs, RawDelegatedPrincipalKeyDocument.activeKeys,
    List.filter_filter]
  refine List.filter_congr fun listed _ => ?_
  rw [Bool.and_comm]

/-- A bundle resolves the signer of a principal from the list of keys it holds. The keys of the
authority itself are not asked when there is a principal. -/
theorem resolved_from_held {bundle : TrustGrantProofBundle} (context : VerificationContext)
    {document : DelegatedPrincipalKeyDocument} {keyId : KeyId} {binding : ResolvedSignerBinding}
    (principal : ValidatedPrincipal)
    (held : bundle.find (.delegated document.authorityId principal.kind principal.id) =
      some (.delegatedPrincipalDocument document))
    (resolved : bundle.resolveSignerBinding document.authorityId keyId (some principal) context =
      .ok binding) :
    ∃ signatureProfile, document.resolveSignerBinding document.authorityId principal keyId
      signatureProfile = .ok binding := by
  obtain ⟨discoveryDocument, -, remaining⟩ := (Results.bind_ok_iff _ _ _).mp resolved
  obtain ⟨⟨⟩, -, remaining⟩ := (Results.bind_ok_iff _ _ _).mp remaining
  obtain ⟨other, found, answered⟩ := (Results.bind_ok_iff _ _ _).mp remaining
  rw [Results.ok_or_ok_iff] at found
  have same : bundle.find (.delegated document.authorityId principal.kind principal.id) =
      some (.delegatedPrincipalDocument other) :=
    congrArg (Option.map BundleEntry.delegatedPrincipalDocument) found
  obtain rfl : other = document :=
    BundleEntry.delegatedPrincipalDocument.inj (Option.some.inj (same.symm.trans held))
  exact ⟨_, answered⟩

/-- A principal signs with an active key: once a bundle holds the keys that a text lists for a
principal of an authority, whatever is inserted later, every grant that is accepted against the
bundle as issued by the principal was verified with the key of the only record in the text that
has the identifier of its key and is not marked as revoked, at a time at which it was active. So
an identifier that is listed only as revoked signs no grant.

Proof: the document under the principal is kept by later insertions, so the signer was resolved
from it. The key that was found was read from a record that is not revoked, and the identifiers
of such records differ. -/
theorem principal_signs_with_active_key (mapping : Text.CaseMapping)
    (keysFromStr : String → Option RawDelegatedPrincipalKeyDocument) (keysJson : String)
    (document : DelegatedPrincipalKeyDocument)
    (parsed : parseDelegatedPrincipalKeyDocument mapping keysFromStr keysJson = .ok document)
    (entries later : List BundleEntry)
    (held : (assembled entries).find (.delegated document.authorityId document.principal.kind
      document.principal.id) = some (.delegatedPrincipalDocument document))
    (fromStr : String → Option RawTrustGrantDocument) (json : String)
    (verifier : SignatureVerifier) (context : VerificationContext)
    (artifacts : VerificationArtifacts)
    (accepted : verifyJsonStrWithBundle mapping fromStr json verifier (assembled (entries ++ later))
      context = .ok artifacts)
    (authority : artifacts.verifiedGrant.document.issuerAuthority = document.authorityId)
    (principal : artifacts.verifiedGrant.document.issuerPrincipal =
      some ⟨document.principal.kind, document.principal.id⟩) :
    ∃ raw key, keysFromStr keysJson = some raw ∧
      OnlyActiveKey raw artifacts.verifiedGrant.document.keyId key ∧
      key.record.Reads artifacts.verifiedGrant.metadata.signerBinding.keyRecord ∧
      artifacts.verifiedGrant.metadata.signerBinding.keyRecord.isActiveAt context.verifiedAt =
        true := by
  obtain ⟨rawDocument, -, acceptedRaw⟩ := (Results.bind_ok_iff _ _ _).mp accepted
  obtain ⟨validated, signerBinding, rawTransitions, transitions, ownership, revocation, -,
    resolved, -, -, -, -, lastStage⟩ := verify_raw_document_with_sources_ok_iff.mp acceptedRaw
  obtain ⟨matched, -, -, -, rfl⟩ := (verify_impl_ok_iff _ _ _ _ _).mp lastStage
  obtain ⟨-, -, remaining⟩ := (Results.bind_ok_iff _ _ _).mp parsed
  obtain ⟨raw, read, normalized⟩ := (Results.bind_ok_iff _ _ _).mp remaining
  rw [Results.ok_or_ok_iff] at read
  have kept : (assembled (entries ++ later)).find (.delegated document.authorityId
      document.principal.kind document.principal.id) =
        some (.delegatedPrincipalDocument document) :=
    KeyedStore.run_kept store_lawful entries later (.delegatedPrincipalDocument document)
      (.delegated document.authorityId document.principal.kind document.principal.id) held
  change validated.issuerAuthority = document.authorityId at authority
  change validated.issuerPrincipal = some ⟨document.principal.kind, document.principal.id⟩
    at principal
  rw [authority, principal] at resolved
  obtain ⟨signatureProfile, answered⟩ :=
    resolved_from_held context ⟨document.principal.kind, document.principal.id⟩ kept resolved
  obtain ⟨key, only, reads⟩ := only_active_key_of_resolved normalized _ _ _ _ _ answered
  exact ⟨raw, key, read, only, reads, matched.active⟩

/-- The discovery document of an authority that lets principals sign, and the keys of one. -/
def smallDelegation : List BundleEntry :=
  [.discoveryDocument (Results.valueOf (AuthorityDiscoveryDocument.tryFrom Text.asciiCaseMapping
    ⟨"did:i", [⟨"j", "a", "p", smallInstant, smallInstant⟩], ⟨"f", "RFC8785"⟩, none, none,
      smallInstant, some ⟨true, "e"⟩⟩) (by decide +kernel)),
    .delegatedPrincipalDocument smallTwiceDocument]

/-- A bundle that holds these keys, after an empty list of keys was supplied. -/
abbrev smallDelegationBundle : TrustGrantProofBundle :=
  assembled
    (smallDelegation ++ [.delegatedPrincipalDocument { smallTwiceDocument with keys := [] }])

/-- A small document that a principal issues. -/
def smallDelegated : RawTrustGrantDocument :=
  { smallDocument ⟨true, none, none⟩ none none with issuerPrincipal := some ⟨"p", "q"⟩ }

/-- The grant that a principal signed is accepted from the bundle that holds both documents. -/
theorem small_delegated_returned :
    (verifyRawDocumentWithSources Text.asciiCaseMapping smallDelegated smallVerifier
      smallDelegationBundle.asSources smallContext).isOk = true := by
  decide +kernel

/-- The small document is verified with the key that is not marked as revoked. Its identifier is
listed both ways, and only one of the two keys is active. -/
theorem small_principal_signs :
    ∃ artifacts key, verifyJsonStrWithBundle Text.asciiCaseMapping
        (RawTrustGrantDocument.fromStr readSmallInstant
          (readTreeText smallDelegated.toValue.toTree)) smallDelegated.toJsonString smallVerifier
          smallDelegationBundle smallContext = .ok artifacts ∧
      OnlyActiveKey (smallListed "k") artifacts.verifiedGrant.document.keyId key ∧
      key.record.Reads artifacts.verifiedGrant.metadata.signerBinding.keyRecord := by
  have read : RawTrustGrantDocument.parseJsonStr (RawTrustGrantDocument.fromStr readSmallInstant
      (readTreeText smallDelegated.toValue.toTree)) smallDelegated.toJsonString =
        .ok smallDelegated :=
    small_grant_parsed smallDelegated _ (read_tree_text _) (by decide +kernel) (by decide +kernel)
  have accepted : verifyJsonStrWithBundle Text.asciiCaseMapping _ smallDelegated.toJsonString
      smallVerifier smallDelegationBundle smallContext =
        .ok (Results.valueOf _ small_delegated_returned) :=
    (Results.bind_ok_iff _ _ _).mpr
      ⟨smallDelegated, read, Results.value_of_eq _ small_delegated_returned⟩
  obtain ⟨raw, key, readKeys, only, reads, -⟩ := principal_signs_with_active_key
    Text.asciiCaseMapping (smallReader "k") (smallListedJson "k") smallTwiceDocument
    (Results.value_of_eq _ small_twice_accepted)
    smallDelegation [.delegatedPrincipalDocument { smallTwiceDocument with keys := [] }]
    (by decide +kernel) _ smallDelegated.toJsonString smallVerifier smallContext _ accepted
    (by decide +kernel) (by decide +kernel)
  obtain rfl := Option.some.inj ((if_pos rfl).symm.trans readKeys)
  exact ⟨_, key, accepted, only, reads⟩

end TrustGrant
