import TrustGrant.Discovery.Documents
import TrustGrant.Library.Deduplication

/-!
# Revoked keys of delegated principals

The keys that a document marks as revoked are left out before the identifiers of the others
are compared. So a revoked key does not resolve, unless the document lists its identifier a
second time without the mark.

The result is an equivalence: it says for which documents the revoked keys never resolve. A
resolution is followed back to the record that it was read from, through the filter, the
collection and the search by the identifier.
-/

namespace TrustGrant

open Rust Limits Library

/-- The identifier of a listed key without the blanks around it. -/
def RawDelegatedKeyRecord.trimmedId (key : RawDelegatedKeyRecord) : String :=
  Text.trim key.record.keyId

/-- What a listed key record is read to. -/
def RawDiscoveryKeyRecord.Reads (raw : RawDiscoveryKeyRecord) (key : AuthorityKeyRecord) : Prop :=
  AuthorityKeyRecord.new raw.keyId raw.algorithm raw.publicKey raw.notBefore raw.notAfter = .ok key

/-- A record that is read keeps its identifier. The identifier is trimmed on the way, so it is
the trimmed text that later comparisons see. -/
theorem RawDiscoveryKeyRecord.key_id_of_reads (raw : RawDiscoveryKeyRecord)
    (key : AuthorityKeyRecord) (reads : raw.Reads key) :
    key.keyId.value = Text.trim raw.keyId := by
  unfold Reads AuthorityKeyRecord.new at reads
  split at reads
  · obtain ⟨keyId, named, reads⟩ := (Results.bind_ok_iff _ _ _).mp reads
    obtain ⟨algorithm, -, reads⟩ := (Results.bind_ok_iff _ _ _).mp reads
    obtain ⟨publicKey, -, reads⟩ := (Results.bind_ok_iff _ _ _).mp reads
    obtain rfl := (Results.pure_ok_iff _ _).mp reads
    exact Token.new_value _ _ named
  · cases reads

/-- Key records are collected when each is read and no two have one identifier. The loop carries
the identifiers it has seen, so the rule for loops that reject what they have seen applies. -/
theorem collect_unique_key_records_ok_iff (rawRecords : List RawDiscoveryKeyRecord)
    (keys : List AuthorityKeyRecord) :
    collectUniqueKeyRecords rawRecords = .ok keys ↔
      List.Forall₂ RawDiscoveryKeyRecord.Reads rawRecords keys ∧
        keys.Pairwise fun earlier later => later.keyId ≠ earlier.keyId := by
  have loop := Results.fresh_loop_ok_iff AuthorityKeyRecord.keyId (· = ·)
    RawDiscoveryKeyRecord.Reads collectUniqueKeyRecordsFrom
    (fun seen outputs => by
      rw [collectUniqueKeyRecordsFrom, Except.ok.injEq]
      exact eq_comm)
    (fun seen raw rest outputs => by
      simp only [collectUniqueKeyRecordsFrom, Results.bind_ok_iff, Results.reject_if_ok_iff,
        Results.pure_ok_iff, exists_const]
      constructor
      · rintro ⟨key, reads, fresh, later, collected, rfl⟩
        exact ⟨key, later, reads, fun earlier seenBefore same => fresh (same ▸ seenBefore),
          collected, rfl⟩
      · rintro ⟨key, later, reads, fresh, collected, rfl⟩
        exact ⟨key, reads, fun seenBefore => fresh _ seenBefore rfl, later, collected, rfl⟩)
    [] rawRecords keys
  rw [collectUniqueKeyRecords, loop]
  simp

/-- The listed keys that are not marked as revoked. -/
def RawDelegatedPrincipalKeyDocument.activeKeys (raw : RawDelegatedPrincipalKeyDocument) :
    List RawDelegatedKeyRecord :=
  raw.keys.filter fun key => !key.revoked

variable {mapping : Text.CaseMapping} {raw : RawDelegatedPrincipalKeyDocument}
  {document : DelegatedPrincipalKeyDocument}

/-- The keys of an accepted document are those that are not marked, and no two of them have
one identifier. -/
theorem keys_of_accepted
    (accepted : DelegatedPrincipalKeyDocument.tryFrom mapping raw = .ok document) :
    List.Forall₂ (fun key read => RawDiscoveryKeyRecord.Reads key.record read) raw.activeKeys
        document.keys ∧
      document.keys.Pairwise fun earlier later => later.keyId ≠ earlier.keyId := by
  obtain ⟨-, -, accepted⟩ := (Results.bind_ok_iff _ _ _).mp accepted
  obtain ⟨authorityId, -, accepted⟩ := (Results.bind_ok_iff _ _ _).mp accepted
  obtain ⟨principal, -, accepted⟩ := (Results.bind_ok_iff _ _ _).mp accepted
  obtain ⟨keys, collected, accepted⟩ := (Results.bind_ok_iff _ _ _).mp accepted
  obtain rfl := (Results.pure_ok_iff _ _).mp accepted
  obtain ⟨paired, distinct⟩ := (collect_unique_key_records_ok_iff _ _).mp collected
  exact ⟨List.forall₂_map_left_iff.mp paired, distinct⟩

/-- A signer is resolved from the key with the identifier that is asked for. Neither the
authority nor the principal can lead to another key. -/
theorem key_of_resolved (issuerAuthority : AuthorityId) (issuerPrincipal : ValidatedPrincipal)
    (keyId : KeyId) (signatureProfile : SignatureProfile) (binding : ResolvedSignerBinding)
    (resolved : document.resolveSignerBinding issuerAuthority issuerPrincipal keyId
      signatureProfile = .ok binding) :
    binding.keyRecord ∈ document.keys ∧ binding.keyRecord.keyId = keyId := by
  obtain ⟨-, -, resolved⟩ := (Results.bind_ok_iff _ _ _).mp resolved
  obtain ⟨-, -, resolved⟩ := (Results.bind_ok_iff _ _ _).mp resolved
  obtain ⟨record, found, resolved⟩ := (Results.bind_ok_iff _ _ _).mp resolved
  obtain rfl := (Results.pure_ok_iff _ _).mp resolved
  rw [findKey, Results.ok_or_ok_iff] at found
  exact ⟨List.mem_of_find?_eq_some found, by simpa using List.find?_some found⟩

/-- What a resolved signer was read from: a record that was not revoked. Its key is among those
of the document, and these are paired with the records that passed the filter. -/
theorem active_key_of_resolved
    (accepted : DelegatedPrincipalKeyDocument.tryFrom mapping raw = .ok document)
    (issuerAuthority : AuthorityId) (issuerPrincipal : ValidatedPrincipal) (keyId : KeyId)
    (signatureProfile : SignatureProfile) (binding : ResolvedSignerBinding)
    (resolved : document.resolveSignerBinding issuerAuthority issuerPrincipal keyId
      signatureProfile = .ok binding) :
    ∃ key ∈ raw.activeKeys, key.trimmedId = keyId.value ∧
      key.record.Reads binding.keyRecord := by
  obtain ⟨paired, -⟩ := keys_of_accepted accepted
  obtain ⟨member, rfl⟩ := key_of_resolved _ _ _ _ _ resolved
  obtain ⟨key, listed, reads⟩ := Results.paired_input paired _ member
  exact ⟨key, listed, (key.record.key_id_of_reads _ reads).symm, reads⟩

/-- No two of the keys that are not marked have one identifier as written, up to the space
around it. -/
theorem active_keys_distinct
    (accepted : DelegatedPrincipalKeyDocument.tryFrom mapping raw = .ok document) :
    raw.activeKeys.Pairwise fun earlier later => later.trimmedId ≠ earlier.trimmedId := by
  obtain ⟨paired, distinct⟩ := keys_of_accepted accepted
  refine Results.paired_pairwise paired ?_ distinct
  intro first output second other firstReads secondReads different same
  refine different (Token.value_injective ?_)
  rw [first.record.key_id_of_reads _ firstReads, second.record.key_id_of_reads _ secondReads]
  exact same

/-- Every key of a document resolves, for its authority and principal. The search by identifier
finds some key, and this is all that can fail. -/
theorem resolves_of_mem (record : AuthorityKeyRecord) (member : record ∈ document.keys)
    (signatureProfile : SignatureProfile) :
    ∃ binding, document.resolveSignerBinding document.authorityId
      ⟨document.principal.kind, document.principal.id⟩ record.keyId signatureProfile =
        .ok binding := by
  have present : (document.keys.find? fun other => other.keyId = record.keyId).isSome = true :=
    List.find?_isSome.mpr ⟨record, member, by simp⟩
  obtain ⟨found, isFound⟩ := Option.isSome_iff_exists.mp present
  refine ⟨⟨document.authorityId, found, signatureProfile, some document.principal⟩, ?_⟩
  simp [DelegatedPrincipalKeyDocument.resolveSignerBinding, findKey, isFound, Results.rejectIf,
    Results.okOr]
  rfl

/-- A revoked key resolves to no signer, and a signer is resolved from the only listed key
with the identifier that is asked for. -/
structure RevokedNeverResolve (raw : RawDelegatedPrincipalKeyDocument)
    (document : DelegatedPrincipalKeyDocument) : Prop where
  revoked : ∀ key ∈ raw.keys, key.revoked = true →
    ∀ issuerAuthority issuerPrincipal keyId signatureProfile binding,
      keyId.value = key.trimmedId →
        document.resolveSignerBinding issuerAuthority issuerPrincipal keyId signatureProfile ≠
          .ok binding
  only : ∀ issuerAuthority issuerPrincipal keyId signatureProfile binding,
    document.resolveSignerBinding issuerAuthority issuerPrincipal keyId signatureProfile =
      .ok binding →
        ∃ key, (raw.keys.filter fun listed => listed.trimmedId = keyId.value) = [key] ∧
          key.record.Reads binding.keyRecord

/-- No identifier is listed both as revoked and as not revoked. Identifiers are compared as they
are read, which is after trimming. -/
def RevokedApart (raw : RawDelegatedPrincipalKeyDocument) : Prop :=
  ∀ revoked ∈ raw.keys, revoked.revoked = true →
    ∀ key ∈ raw.keys, key.revoked = false → key.trimmedId ≠ revoked.trimmedId

/-- Where no identifier is listed both ways, the revoked keys never resolve. A key that resolved
was read from a record that is not revoked; one that was revoked under the same identifier would
be listed both ways. -/
theorem never_resolve_of_apart
    (accepted : DelegatedPrincipalKeyDocument.tryFrom mapping raw = .ok document)
    (apart : RevokedApart raw) : RevokedNeverResolve raw document := by
  have active : ∀ key, key ∈ raw.activeKeys ↔ key ∈ raw.keys ∧ key.revoked = false := by
    intro key
    simp [RawDelegatedPrincipalKeyDocument.activeKeys]
  constructor
  · intro revoked listed isRevoked issuerAuthority issuerPrincipal keyId signatureProfile binding
      sameId resolved
    obtain ⟨key, isActive, keyIs, -⟩ := active_key_of_resolved accepted _ _ _ _ _ resolved
    obtain ⟨keyListed, notRevoked⟩ := (active key).mp isActive
    exact apart revoked listed isRevoked key keyListed notRevoked (keyIs.trans sameId)
  · intro issuerAuthority issuerPrincipal keyId signatureProfile binding resolved
    obtain ⟨key, isActive, keyIs, reads⟩ := active_key_of_resolved accepted _ _ _ _ _ resolved
    obtain ⟨keyListed, notRevoked⟩ := (active key).mp isActive
    refine ⟨key, ?_, reads⟩
    have only := Deduplication.filter_key RawDelegatedKeyRecord.trimmedId raw.activeKeys
      (active_keys_distinct accepted) key isActive
    rw [← only, ← keyIs, RawDelegatedPrincipalKeyDocument.activeKeys, List.filter_filter]
    refine List.filter_congr fun listed isListed => ?_
    -- a key of this identifier that was revoked would clash with the resolved one
    cases isRevoked : listed.revoked with
    | false => simp
    | true =>
      have different := apart listed isListed isRevoked key keyListed notRevoked
      simp [different.symm]

/-- A signature profile for which signers are resolved. -/
def smallProfile : SignatureProfile :=
  Results.valueOf (SignatureProfile.new "f" "RFC8785") (by decide +kernel)

/-- Where the revoked keys never resolve, no identifier is listed both ways. A record that is not
revoked is kept, so its key resolves under the shared identifier. -/
theorem apart_of_never_resolve
    (accepted : DelegatedPrincipalKeyDocument.tryFrom mapping raw = .ok document)
    (never : RevokedNeverResolve raw document) : RevokedApart raw := by
  intro revoked listed isRevoked key keyListed notRevoked same
  have isActive : key ∈ raw.activeKeys := by
    simp [RawDelegatedPrincipalKeyDocument.activeKeys, keyListed, notRevoked]
  obtain ⟨record, member, reads⟩ := Results.paired_output (keys_of_accepted accepted).1 key isActive
  obtain ⟨binding, resolved⟩ := resolves_of_mem record member smallProfile
  have sameId : record.keyId.value = revoked.trimmedId :=
    (key.record.key_id_of_reads record reads).trans same
  exact never.revoked revoked listed isRevoked _ _ _ _ _ sameId resolved

/-- An accepted text holds an accepted wire document. The size of the text is checked before it
is read. -/
theorem accepted_of_parsed {fromStr : String → Option RawDelegatedPrincipalKeyDocument}
    {json : String} (read : fromStr json = some raw)
    (parsed : parseDelegatedPrincipalKeyDocument mapping fromStr json = .ok document) :
    DelegatedPrincipalKeyDocument.tryFrom mapping raw = .ok document := by
  obtain ⟨-, -, parsed⟩ := (Results.bind_ok_iff _ _ _).mp parsed
  obtain ⟨given, isGiven, accepted⟩ := (Results.bind_ok_iff _ _ _).mp parsed
  rw [Results.ok_or_ok_iff, read, Option.some.injEq] at isGiven
  rw [isGiven]
  exact accepted

/-- For every accepted document, revoked keys never resolve exactly when no identifier is listed
both as revoked and as not revoked. A resolution answers with a record that is not revoked and
has the identifier that is asked for; both directions follow this record back to the wire
document. -/
theorem revoked_never_resolve_iff (fromStr : String → Option RawDelegatedPrincipalKeyDocument)
    (json : String) (read : fromStr json = some raw)
    (parsed : parseDelegatedPrincipalKeyDocument mapping fromStr json = .ok document) :
    RevokedNeverResolve raw document ↔ RevokedApart raw :=
  ⟨apart_of_never_resolve (accepted_of_parsed read parsed),
    never_resolve_of_apart (accepted_of_parsed read parsed)⟩

/-- A document that lists the key k as revoked and then an active key. -/
def smallListed (activeId : String) : RawDelegatedPrincipalKeyDocument :=
  let record (keyId : String) : RawDiscoveryKeyRecord :=
    ⟨keyId, "a", "p", smallInstant, smallInstant⟩
  ⟨"did:i", ⟨"p", "q"⟩, [⟨record "k", true⟩, ⟨record activeId, false⟩]⟩

/-- Its text. -/
def smallListedJson (activeId : String) : String :=
  let record (keyId revoked : String) := "\x7b\"key_id\":\"" ++ keyId ++
    "\",\"algorithm\":\"a\",\"public_key\":\"p\"," ++
    "\"not_before\":\"2026-04-07T12:00:00Z\",\"not_after\":\"2026-04-07T12:00:00Z\"," ++
    "\"revoked\":" ++ revoked ++ "\x7d"
  "\x7b\"authority_id\":\"did:i\",\"principal\":\x7b\"kind\":\"p\",\"id\":\"q\"\x7d," ++
    "\"keys\":[" ++ record "k" "true" ++ "," ++ record activeId "false" ++ "]\x7d"

/-- A reader that knows this text. -/
def smallReader (activeId json : String) : Option RawDelegatedPrincipalKeyDocument :=
  if json = smallListedJson activeId then some (smallListed activeId) else none

/-- What is accepted of this text. -/
def smallListedDocument (activeId : String)
    (accepted : (parseDelegatedPrincipalKeyDocument Text.asciiCaseMapping (smallReader activeId)
      (smallListedJson activeId)).isOk = true) : DelegatedPrincipalKeyDocument :=
  Results.valueOf _ accepted

/-- The document with the active key l is accepted, and so is the one with k listed both ways. -/
theorem small_apart_accepted : (parseDelegatedPrincipalKeyDocument Text.asciiCaseMapping
    (smallReader "l") (smallListedJson "l")).isOk = true := by
  decide +kernel

/-- The document that lists one key as revoked and as valid is accepted. -/
theorem small_twice_accepted : (parseDelegatedPrincipalKeyDocument Text.asciiCaseMapping
    (smallReader "k") (smallListedJson "k")).isOk = true := by
  decide +kernel

/-- The document that lists the key k both ways. -/
abbrev smallTwiceDocument : DelegatedPrincipalKeyDocument :=
  smallListedDocument "k" small_twice_accepted

/-- With the active key l the revoked key k never resolves. The two identifiers differ, so none
is listed both ways. -/
theorem small_revoked_never_resolves :
    RevokedNeverResolve (smallListed "l") (smallListedDocument "l" small_apart_accepted) := by
  refine (revoked_never_resolve_iff (smallReader "l") (smallListedJson "l") (if_pos rfl)
    (Results.value_of_eq _ small_apart_accepted)).mpr ?_
  intro revoked listed isRevoked key keyListed notRevoked same
  rcases List.mem_pair.mp listed with rfl | rfl
  · rcases List.mem_pair.mp keyListed with rfl | rfl
    · cases notRevoked
    · revert same
      decide
  · cases isRevoked

/-- Where the key k is listed both ways, the revoked key resolves. The collection drops the
revoked record before it compares identifiers, so the record that remains answers for both. -/
theorem revoked_key_resolves :
    parseDelegatedPrincipalKeyDocument Text.asciiCaseMapping (smallReader "k")
        (smallListedJson "k") = .ok smallTwiceDocument ∧
      ¬ RevokedNeverResolve (smallListed "k") smallTwiceDocument := by
  have parsed := Results.value_of_eq _ small_twice_accepted
  refine ⟨parsed, fun never => ?_⟩
  have apart := apart_of_never_resolve (accepted_of_parsed (if_pos rfl) parsed) never
  exact apart _ List.mem_cons_self rfl _ (List.mem_cons_of_mem _ List.mem_cons_self) rfl rfl

end TrustGrant
