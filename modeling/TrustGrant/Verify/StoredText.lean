import TrustGrant.Verify.RoundTrip
import TrustGrant.Verify.StoredValue
import TrustGrant.Verify.WrittenDocuments

/-!
# Storing grants as texts

A verified grant is stored as the JSON text of its record, under an identifier that may be used
again. Every record is read back from its text as it was written. So after any run of insertions
into a storage that keeps what was stored last, what is loaded under an identifier restores the
grant that was stored last under it.

A record is read back from its JSON value type by type, by the rules for what serde writes.
The run over a storage is an induction over the insertions, in which the storage is a
parameter with the law that it answers with what was stored last.
-/

namespace TrustGrant

open Rust Rust.Serde Library

/-- `serde_json::to_string` of a record. -/
def VerifiedTrustGrantRecord.toJsonString (record : VerifiedTrustGrantRecord) : String :=
  treeText record.toValue.toTree

/-- The two ends of a stored window. -/
def TimeWindowRecord.timeStamps (window : TimeWindowRecord) : List DateTime :=
  [window.notBefore, window.notAfter]

/-- When the grant was issued, and the ends of its window, if there is one. -/
def NormalizedTrustGrantDocumentRecord.timeStamps
    (document : NormalizedTrustGrantDocumentRecord) : List DateTime :=
  document.issuedAt :: document.globalTimeWindow.elim [] TimeWindowRecord.timeStamps

/-- The two ends of the validity of a key. -/
def AuthorityKeyRecordRecord.timeStamps (record : AuthorityKeyRecordRecord) : List DateTime :=
  [record.notBefore, record.notAfter]

/-- When the status was checked and until when it is fresh. -/
def RevocationRecord.timeStamps (record : RevocationRecord) : List DateTime :=
  [record.checkedAt, record.freshUntil]

/-- The time stamps of the record, if the status was checked. -/
def VerifiedRevocationState.timeStamps (state : VerifiedRevocationState) : List DateTime :=
  state.checkedRecord.elim [] RevocationRecord.timeStamps

/-- When the grant was verified, and the time stamps of what was established. -/
def VerificationMetadataRecord.timeStamps (metadata : VerificationMetadataRecord) :
    List DateTime :=
  metadata.verifiedAt :: (metadata.signerBinding.keyRecord.timeStamps ++
    metadata.ownership.checkedAt :: metadata.revocation.timeStamps)

/-- The time stamps in a stored grant. Whether these are read back is the one question left to
the chrono library. -/
def VerifiedTrustGrantRecord.timeStamps (record : VerifiedTrustGrantRecord) : List DateTime :=
  record.document.timeStamps ++ record.metadata.timeStamps

/-- A policy is read back by the name it is written under, also the one without a wire form. -/
theorem SupersessionPolicyRecord.read_back (item : SupersessionPolicyRecord) :
    ReadBack (readVariant SupersessionPolicyRecord.variants) SupersessionPolicyRecord.toValue
      item := by
  cases item <;> exact ⟨rfl, rfl⟩

/-- A kind of ownership proof is read back by its name. The names differ, so each finds its own
variant. -/
theorem OwnershipProofKind.read_back (item : OwnershipProofKind) :
    ReadBack (readVariant OwnershipProofKind.variants) OwnershipProofKind.toValue item := by
  cases item <;> exact ⟨rfl, rfl⟩

/-- A status is read back by its name. It has no data besides. -/
theorem RevocationStatus.read_back (item : RevocationStatus) :
    ReadBack (readVariant RevocationStatus.variants) RevocationStatus.toValue item := by
  cases item <;> exact ⟨rfl, rfl⟩

/-- A kind of source is read back by its name. -/
theorem RevocationSourceKind.read_back (item : RevocationSourceKind) :
    ReadBack (readVariant RevocationSourceKind.variants) RevocationSourceKind.toValue item := by
  cases item <;> exact ⟨rfl, rfl⟩

/-- A finality is read back by its name. -/
theorem ProofFinality.read_back (item : ProofFinality) :
    ReadBack (readVariant ProofFinality.variants) ProofFinality.toValue item := by
  cases item <;> exact ⟨rfl, rfl⟩

/-- A posture is read back by its name. -/
theorem VerificationPosture.read_back (item : VerificationPosture) :
    ReadBack (readVariant VerificationPosture.variants) VerificationPosture.toValue item := by
  cases item <;> exact ⟨rfl, rfl⟩

/-- A stored selector is read back. All of its fields are required and written, its lists as they
are. -/
theorem SelectorRecord.read_back (selector : SelectorRecord) :
    ReadBack SelectorRecord.fromTree SelectorRecord.toValue selector := by
  refine SelectorRecord.shape.read_back (by decide) rfl (fun _ => rfl) (.refl _) ?_
  exact field_read_back (required_read_back (string_read_back _) rfl) <|
    field_read_back (required_read_back (bool_read_back _) rfl) <|
    field_read_back (required_read_back (list_read_back string_read_back _) rfl) <|
    field_read_back (required_read_back (list_read_back string_read_back _) rfl) rfl

/-- A stored scope is read back with its selectors. Its lists are required, so an empty list is
written. -/
theorem ScopeRecord.read_back (scope : ScopeRecord) :
    ReadBack ScopeRecord.fromTree ScopeRecord.toValue scope := by
  refine ScopeRecord.shape.read_back (by decide) rfl (fun _ => rfl) (.refl _) ?_
  exact field_read_back (required_read_back (bool_read_back _) rfl) <|
    field_read_back (required_read_back (list_read_back SelectorRecord.read_back _) rfl) <|
    field_read_back (required_read_back (list_read_back SelectorRecord.read_back _) rfl) rfl

/-- Stored capabilities are read back. They are two booleans. -/
theorem CapabilitiesRecord.read_back (capabilities : CapabilitiesRecord) :
    ReadBack CapabilitiesRecord.fromTree CapabilitiesRecord.toValue capabilities := by
  refine CapabilitiesRecord.shape.read_back (by decide) rfl (fun _ => rfl) (.refl _) ?_
  exact field_read_back (required_read_back (bool_read_back _) rfl) <|
    field_read_back (required_read_back (bool_read_back _) rfl) rfl

/-- A stored audience entry is read back; a missing scope of principals is written as null. Its
authority is a text, which is checked when the record becomes a grant. -/
theorem AudienceEntryRecord.read_back (entry : AudienceEntryRecord) :
    ReadBack AudienceEntryRecord.fromTree AudienceEntryRecord.toValue entry := by
  refine AudienceEntryRecord.shape.read_back (by decide) rfl (fun _ => rfl) (.refl _) ?_
  exact field_read_back (required_read_back (string_read_back _) rfl) <|
    field_read_back (required_read_back (ScopeRecord.read_back _) rfl) <|
    field_read_back (optional_value_back (fun _ _ => ScopeRecord.read_back _) rfl) rfl

/-- Stored type capabilities are read back. A capability that is left to the grant is null. -/
theorem TypeCapabilitiesRecord.read_back (capabilities : TypeCapabilitiesRecord) :
    ReadBack TypeCapabilitiesRecord.fromTree TypeCapabilitiesRecord.toValue capabilities := by
  refine TypeCapabilitiesRecord.shape.read_back (by decide) rfl (fun _ => rfl) (.refl _) ?_
  exact field_read_back (optional_value_back (fun _ _ => bool_read_back _) rfl) <|
    field_read_back (optional_value_back (fun _ _ => bool_read_back _) rfl) rfl

/-- Stored minting limits are read back. A limit is a number of sixty-four bits, and so is what
it is read as. -/
theorem MintingConstraintsRecord.read_back (minting : MintingConstraintsRecord) :
    ReadBack MintingConstraintsRecord.fromTree MintingConstraintsRecord.toValue minting := by
  refine MintingConstraintsRecord.shape.read_back (by decide) rfl (fun _ => rfl) (.refl _) ?_
  exact field_read_back (optional_value_back (fun _ _ => u64_read_back _) rfl) <|
    field_read_back (optional_value_back (fun _ _ => u64_read_back _) rfl) rfl

/-- Stored type constraints are read back. The audience of the type is a list, which may be
empty. -/
theorem TypeConstraintsRecord.read_back (constraints : TypeConstraintsRecord) :
    ReadBack TypeConstraintsRecord.fromTree TypeConstraintsRecord.toValue constraints := by
  refine TypeConstraintsRecord.shape.read_back (by decide) rfl (fun _ => rfl) (.refl _) ?_
  exact field_read_back (required_read_back (MintingConstraintsRecord.read_back _) rfl) <|
    field_read_back (required_read_back (list_read_back AudienceEntryRecord.read_back _) rfl) rfl

/-- A stored operation scope is read back. Its names are texts, which are checked when the record
becomes a grant. -/
theorem OperationScopeRecord.read_back (scope : OperationScopeRecord) :
    ReadBack OperationScopeRecord.fromTree OperationScopeRecord.toValue scope := by
  refine OperationScopeRecord.shape.read_back (by decide) rfl (fun _ => rfl) (.refl _) ?_
  exact field_read_back (required_read_back (list_read_back string_read_back _) rfl) <|
    field_read_back (required_read_back (list_read_back string_read_back _) rfl) rfl

/-- A stored resource type is read back. Its fields are read back one by one, the scope of its
resources among them. -/
theorem ResourceTypeRecord.read_back (resourceType : ResourceTypeRecord) :
    ReadBack ResourceTypeRecord.fromTree ResourceTypeRecord.toValue resourceType := by
  refine ResourceTypeRecord.shape.read_back (by decide) rfl (fun _ => rfl) (.refl _) ?_
  exact field_read_back (required_read_back (bool_read_back _) rfl) <|
    field_read_back (required_read_back (list_read_back SelectorRecord.read_back _) rfl) <|
    field_read_back (required_read_back (list_read_back SelectorRecord.read_back _) rfl) <|
    field_read_back (required_read_back (TypeCapabilitiesRecord.read_back _) rfl) <|
    field_read_back (required_read_back (TypeConstraintsRecord.read_back _) rfl) <|
    field_read_back (optional_value_back (fun _ _ => OperationScopeRecord.read_back _) rfl) rfl

/-- A stored revocation policy is read back with its effect. The record keeps the effect, which
the consistency check forgets. -/
theorem RevocationPolicyRecord.read_back (policy : RevocationPolicyRecord) :
    ReadBack RevocationPolicyRecord.fromTree RevocationPolicyRecord.toValue policy := by
  refine RevocationPolicyRecord.shape.read_back (by decide) rfl (fun _ => rfl) (.refl _) ?_
  exact field_read_back (required_read_back (bool_read_back _) rfl) <|
    field_read_back (required_read_back (string_read_back _) rfl) <|
    field_read_back (required_read_back (effect_read_back _) rfl) rfl

/-- A stored principal is read back. Kind and identifier are texts in the record. -/
theorem PrincipalRecord.read_back (principal : PrincipalRecord) :
    ReadBack PrincipalRecord.fromTree PrincipalRecord.toValue principal := by
  refine PrincipalRecord.shape.read_back (by decide) rfl (fun _ => rfl) (.refl _) ?_
  exact field_read_back (required_read_back (string_read_back _) rfl) <|
    field_read_back (required_read_back (string_read_back _) rfl) rfl

/-- A stored signature profile is read back. Format and canonicalization are texts in the
record. -/
theorem SignatureProfileRecord.read_back (profile : SignatureProfileRecord) :
    ReadBack SignatureProfileRecord.fromTree SignatureProfileRecord.toValue profile := by
  refine SignatureProfileRecord.shape.read_back (by decide) rfl (fun _ => rfl) (.refl _) ?_
  exact field_read_back (required_read_back (string_read_back _) rfl) <|
    field_read_back (required_read_back (string_read_back _) rfl) rfl

section TimeStamps

variable {readDateTime : String → Option DateTime}

/-- A stored window is read back when its time stamps are. The reader does not compare the two
ends. -/
theorem TimeWindowRecord.read_back (window : TimeWindowRecord)
    (stamps : ReadsStamps readDateTime window.timeStamps) :
    ReadBack (TimeWindowRecord.fromTree readDateTime) TimeWindowRecord.toValue window := by
  obtain ⟨notBefore, inEnd⟩ := List.forall_mem_cons.mp stamps
  have notAfter := inEnd _ List.mem_cons_self
  refine TimeWindowRecord.shape.read_back (by decide) rfl (fun _ => rfl) (.refl _) ?_
  exact field_read_back (required_read_back (time_stamp_read_back notBefore) rfl) <|
    field_read_back (required_read_back (time_stamp_read_back notAfter) rfl) rfl

/-- A stored document is read back when its time stamps are. The types are written in the order
of their names and read into a map of the same order. -/
theorem NormalizedTrustGrantDocumentRecord.read_back (document : NormalizedTrustGrantDocumentRecord)
    (stamps : ReadsStamps readDateTime document.timeStamps) :
    ReadBack (NormalizedTrustGrantDocumentRecord.fromTree readDateTime)
      NormalizedTrustGrantDocumentRecord.toValue document := by
  obtain ⟨issuedAt, ofWindow⟩ := List.forall_mem_cons.mp stamps
  have named : ∀ profile, (NormalizedTrustGrantDocumentRecord.shape.fields.dropLast ++
      (profileMember profile).map Prod.fst).Sublist
        NormalizedTrustGrantDocumentRecord.shape.fields := by
    intro profile
    cases profile with
    | none =>
      rw [profileMember, List.map_nil, List.append_nil]
      exact List.dropLast_sublist _
    | some profile => exact .refl _
  refine NormalizedTrustGrantDocumentRecord.shape.read_back (by decide) rfl (fun _ => rfl)
    (named _) ?_
  exact field_read_back (required_read_back (string_read_back _) rfl) <|
    field_read_back (required_read_back (string_read_back _) rfl) <|
    field_read_back (required_read_back (u64_read_back _) rfl) <|
    field_read_back (optional_value_back (fun _ _ => string_read_back _) rfl) <|
    field_read_back (required_read_back (SupersessionPolicyRecord.read_back _) rfl) <|
    field_read_back (required_read_back (string_read_back _) rfl) <|
    field_read_back (required_read_back (string_read_back _) rfl) <|
    field_read_back (required_read_back (string_read_back _) rfl) <|
    field_read_back (required_read_back (string_read_back _) rfl) <|
    field_read_back (required_read_back (ScopeRecord.read_back _) rfl) <|
    field_read_back (required_read_back (CapabilitiesRecord.read_back _) rfl) <|
    field_read_back (required_read_back (list_read_back AudienceEntryRecord.read_back _) rfl) <|
    field_read_back (required_read_back (map_read_back (fun _ => rfl)
      fun entry _ => ResourceTypeRecord.read_back entry.2) rfl) <|
    field_read_back (optional_value_back (fun window present =>
      window.read_back (reads_stamps_of_option ofWindow window present)) rfl) <|
    field_read_back (optional_value_back (fun _ _ => RevocationPolicyRecord.read_back _) rfl) <|
    field_read_back (required_read_back (time_stamp_read_back issuedAt) rfl) <|
    field_read_back (optional_value_back (fun _ _ => PrincipalRecord.read_back _) rfl) <|
    field_read_back (profile_member_back _ _ rfl) rfl

/-- A stored signing key is read back when its time stamps are. The rest of it is text. -/
theorem AuthorityKeyRecordRecord.read_back (record : AuthorityKeyRecordRecord)
    (stamps : ReadsStamps readDateTime record.timeStamps) :
    ReadBack (AuthorityKeyRecordRecord.fromTree readDateTime) AuthorityKeyRecordRecord.toValue
      record := by
  obtain ⟨notBefore, inEnd⟩ := List.forall_mem_cons.mp stamps
  have notAfter := inEnd _ List.mem_cons_self
  refine AuthorityKeyRecordRecord.shape.read_back (by decide) rfl (fun _ => rfl) (.refl _) ?_
  exact field_read_back (required_read_back (string_read_back _) rfl) <|
    field_read_back (required_read_back (string_read_back _) rfl) <|
    field_read_back (required_read_back (string_read_back _) rfl) <|
    field_read_back (required_read_back (time_stamp_read_back notBefore) rfl) <|
    field_read_back (required_read_back (time_stamp_read_back notAfter) rfl) rfl

/-- A stored signer binding is read back when the time stamps of its key are. The principal may
be absent. -/
theorem ResolvedSignerBindingRecord.read_back (binding : ResolvedSignerBindingRecord)
    (stamps : ReadsStamps readDateTime binding.keyRecord.timeStamps) :
    ReadBack (ResolvedSignerBindingRecord.fromTree readDateTime) ResolvedSignerBindingRecord.toValue
      binding := by
  refine ResolvedSignerBindingRecord.shape.read_back (by decide) rfl (fun _ => rfl) (.refl _) ?_
  exact field_read_back (required_read_back (string_read_back _) rfl) <|
    field_read_back (required_read_back (AuthorityKeyRecordRecord.read_back _ stamps) rfl) <|
    field_read_back (required_read_back (SignatureProfileRecord.read_back _) rfl) <|
    field_read_back (optional_value_back (fun _ _ => PrincipalRecord.read_back _) rfl) rfl

/-- A stored ownership record is read back when the time of its check is. The tip of the chain
may be absent. -/
theorem OwnershipVerificationRecordRecord.read_back (ownership : OwnershipVerificationRecordRecord)
    (checkedAt : readDateTime (String.ofList ownership.checkedAt.toRfc3339) =
      some ownership.checkedAt) :
    ReadBack (OwnershipVerificationRecordRecord.fromTree readDateTime)
      OwnershipVerificationRecordRecord.toValue ownership := by
  refine OwnershipVerificationRecordRecord.shape.read_back (by decide) rfl (fun _ => rfl)
    (.refl _) ?_
  exact field_read_back (required_read_back (string_read_back _) rfl) <|
    field_read_back (required_read_back (string_read_back _) rfl) <|
    field_read_back (required_read_back (time_stamp_read_back checkedAt) rfl) <|
    field_read_back (required_read_back (OwnershipProofKind.read_back _) rfl) <|
    field_read_back (optional_value_back (fun _ _ => string_read_back _) rfl) rfl

/-- A stored revocation record is read back when its two time stamps are. Whether these are in
order is not asked. -/
theorem RevocationRecord.read_back (record : RevocationRecord)
    (stamps : ReadsStamps readDateTime record.timeStamps) :
    ReadBack (RevocationRecord.fromTree readDateTime) RevocationRecord.toValue record := by
  obtain ⟨checkedAt, inEnd⟩ := List.forall_mem_cons.mp stamps
  have freshUntil := inEnd _ List.mem_cons_self
  refine RevocationRecord.shape.read_back (by decide) rfl (fun _ => rfl) (.refl _) ?_
  exact field_read_back (required_read_back (RevocationStatus.read_back _) rfl) <|
    field_read_back (required_read_back (RevocationSourceKind.read_back _) rfl) <|
    field_read_back (required_read_back (ProofFinality.read_back _) rfl) <|
    field_read_back (required_read_back (time_stamp_read_back checkedAt) rfl) <|
    field_read_back (required_read_back (time_stamp_read_back freshUntil) rfl) rfl

/-- Both forms of a revocation state are read back. The one is a name, the other an object with
the record. -/
theorem VerifiedRevocationState.read_back (state : VerifiedRevocationState)
    (stamps : ReadsStamps readDateTime state.timeStamps) :
    ReadBack (VerifiedRevocationState.fromTree readDateTime) VerifiedRevocationState.toValue
      state := by
  cases state with
  | nonRevocable => exact ⟨rfl, rfl⟩
  | checked record =>
    have readBack := record.read_back stamps
    refine ⟨rfl, ?_⟩
    show (RevocationRecord.fromTree readDateTime record.toValue.toTree).map
      VerifiedRevocationState.checked = _
    rw [readBack.reads, Option.map_some]

/-- Stored metadata are read back when their time stamps are. These are the stamps of all records
in it. -/
theorem VerificationMetadataRecord.read_back (metadata : VerificationMetadataRecord)
    (stamps : ReadsStamps readDateTime metadata.timeStamps) :
    ReadBack (VerificationMetadataRecord.fromTree readDateTime) VerificationMetadataRecord.toValue
      metadata := by
  obtain ⟨verifiedAt, later⟩ := List.forall_mem_cons.mp stamps
  obtain ⟨ofKey, later⟩ := List.forall_mem_append.mp later
  obtain ⟨checkedAt, ofRevocation⟩ := List.forall_mem_cons.mp later
  refine VerificationMetadataRecord.shape.read_back (by decide) rfl (fun _ => rfl) (.refl _) ?_
  exact field_read_back (required_read_back (time_stamp_read_back verifiedAt) rfl) <|
    field_read_back (required_read_back (VerificationPosture.read_back _) rfl) <|
    field_read_back (required_read_back (ResolvedSignerBindingRecord.read_back _ ofKey) rfl) <|
    field_read_back (required_read_back
      (OwnershipVerificationRecordRecord.read_back _ checkedAt) rfl) <|
    field_read_back (required_read_back (VerifiedRevocationState.read_back _ ofRevocation) rfl) rfl

/-- A stored grant is read back from the value that serde writes for it, provided that chrono
reads its time stamps back. -/
theorem VerifiedTrustGrantRecord.read_back (record : VerifiedTrustGrantRecord)
    (stamps : ReadsStamps readDateTime record.timeStamps) :
    ReadBack (VerifiedTrustGrantRecord.fromTree readDateTime) VerifiedTrustGrantRecord.toValue
      record := by
  obtain ⟨ofDocument, ofMetadata⟩ := List.forall_mem_append.mp stamps
  refine VerifiedTrustGrantRecord.shape.read_back (by decide) rfl (fun _ => rfl) (.refl _) ?_
  exact field_read_back (required_read_back (u16_read_back _) rfl) <|
    field_read_back (required_read_back
      (NormalizedTrustGrantDocumentRecord.read_back _ ofDocument) rfl) <|
    field_read_back (required_read_back
      (VerificationMetadataRecord.read_back _ ofMetadata) rfl) rfl

end TimeStamps

/-- The text of a record is read as the record. It is asked that the text syntax of this one
value is read back. -/
theorem record_text_read {readDateTime : String → Option DateTime}
    {parse : String → Option JsonTree} (record : VerifiedTrustGrantRecord)
    (textRead : TextReadBack readDateTime parse record.toValue record.timeStamps) :
    VerifiedTrustGrantRecord.fromStr readDateTime parse record.toJsonString = some record :=
  Option.bind_eq_some_iff.mpr
    ⟨_, textRead.syntaxRead, (record.read_back textRead.stampsRead).reads⟩

/-- The identifier of a stored grant is any text. -/
structure StoredGrantId where
  value : String
deriving DecidableEq

/-- `StorageSource`: a storage of texts, which the caller supplies. -/
structure StorageSource (σ : Type) where
  store : σ → StoredGrantId → String → Except TrustGrantError σ
  load : σ → StoredGrantId → Except TrustGrantError String

/-- A storage persists what is stored: it loads the text that was stored under an identifier, and
what it loads under the others does not change. -/
structure StorageSource.Persists {σ : Type} (source : StorageSource σ) : Prop where
  loads : ∀ state grantId json later, source.store state grantId json = .ok later →
    source.load later grantId = .ok json
  keeps : ∀ state grantId json later, source.store state grantId json = .ok later →
    ∀ other, other ≠ grantId → source.load later other = source.load state other

/-- Grants are stored one after the other, each as the text of its record. The state of the
storage is passed along. -/
def storeGrants {σ : Type} (source : StorageSource σ) (state : σ)
    (grants : List (StoredGrantId × VerifiedTrustGrant)) : Except TrustGrantError σ :=
  grants.foldlM (fun state entry =>
    source.store state entry.1 (VerifiedTrustGrantRecord.ofGrant entry.2).toJsonString) state

/-- The grant that was stored last under an identifier. Earlier ones under it are replaced. -/
def lastStored (grants : List (StoredGrantId × VerifiedTrustGrant)) (grantId : StoredGrantId) :
    Option VerifiedTrustGrant :=
  (grants.reverse.find? fun entry => entry.1 = grantId).map Prod.snd

/-- One more grant is the last one stored under its own identifier and changes nothing for
another. -/
theorem last_stored_snoc (grants : List (StoredGrantId × VerifiedTrustGrant))
    (entry : StoredGrantId × VerifiedTrustGrant) (grantId : StoredGrantId) :
    lastStored (grants ++ [entry]) grantId =
      if entry.1 = grantId then some entry.2 else lastStored grants grantId := by
  rw [lastStored, List.reverse_append, List.reverse_singleton, List.singleton_append,
    List.find?_cons]
  by_cases same : entry.1 = grantId
  · simp [same]
  · simp [same, lastStored]

/-- After a run of insertions an identifier loads the text of the grant that was stored last under
it, or what it loaded before. -/
theorem loaded_after_run {σ : Type} (source : StorageSource σ) (persists : source.Persists)
    (grants : List (StoredGrantId × VerifiedTrustGrant)) (state later : σ)
    (stored : storeGrants source state grants = .ok later) (grantId : StoredGrantId) :
    source.load later grantId = (lastStored grants grantId).elim (source.load state grantId)
      fun grant => .ok (VerifiedTrustGrantRecord.ofGrant grant).toJsonString := by
  induction grants using List.reverseRecOn generalizing later with
  | nil =>
    obtain rfl := (Results.pure_ok_iff _ _).mp stored
    rfl
  | append_singleton grants entry inductionHypothesis =>
    rw [storeGrants, List.foldlM_append, Results.bind_ok_iff] at stored
    obtain ⟨between, earlier, last⟩ := stored
    rw [List.foldlM_cons, Results.bind_ok_iff] at last
    obtain ⟨after, inserted, finished⟩ := last
    obtain rfl := (Results.pure_ok_iff _ _).mp finished
    rw [last_stored_snoc]
    by_cases same : entry.1 = grantId
    · rw [if_pos same, ← same]
      exact persists.loads _ _ _ _ inserted
    · rw [if_neg same, ← inductionHypothesis between earlier]
      exact persists.keeps _ _ _ _ inserted grantId (Ne.symm same)

/-- Stored grants are restored: after any run of insertions of grants that the pipeline produced,
what is loaded under an identifier is a text that is read as a record, and the record restores the
grant that was stored last under the identifier.

Proof: the storage answers with the text that was stored last, by induction on the insertions.
This text is read as the record of its grant, and the record of a grant that the pipeline
produced is read back as the grant. -/
theorem stored_texts_restored {σ : Type} (mapping : Text.CaseMapping)
    (readDateTime : String → Option DateTime) (parse : String → Option JsonTree)
    (source : StorageSource σ) (persists : source.Persists)
    (grants : List (StoredGrantId × VerifiedTrustGrant))
    (produced : ∀ entry ∈ grants, Produced mapping entry.2)
    (textsRead : ∀ entry ∈ grants, TextReadBack readDateTime parse
      (VerifiedTrustGrantRecord.ofGrant entry.2).toValue
      (VerifiedTrustGrantRecord.ofGrant entry.2).timeStamps)
    (state later : σ) (stored : storeGrants source state grants = .ok later)
    (grantId : StoredGrantId) (grant : VerifiedTrustGrant)
    (isLast : lastStored grants grantId = some grant) :
    ∃ json record, source.load later grantId = .ok json ∧
      VerifiedTrustGrantRecord.fromStr readDateTime parse json = some record ∧
      record.tryToVerifiedGrant mapping = .ok grant := by
  have loaded := loaded_after_run source persists grants state later stored grantId
  rw [isLast, Option.elim_some] at loaded
  obtain ⟨entry, isFound, rfl⟩ := Option.map_eq_some_iff.mp isLast
  have listed : entry ∈ grants := List.mem_reverse.mp (List.mem_of_find?_eq_some isFound)
  exact ⟨_, _, loaded, record_text_read _ (textsRead entry listed),
    read_written_grant entry.2 (invariant_of_produced mapping entry.2 (produced entry listed))⟩

/-- A storage that holds one text for each identifier. -/
def textPerIdentifier : StorageSource (StoredGrantId → Except TrustGrantError String) where
  store state grantId json := .ok (Function.update state grantId (.ok json))
  load state grantId := state grantId

/-- A function from identifiers to texts persists what it is given. -/
theorem text_per_identifier_persists : textPerIdentifier.Persists where
  loads state grantId json later stored := by
    obtain rfl := Except.ok.inj stored
    exact Function.update_self ..
  keeps state grantId json later stored other apart := by
    obtain rfl := Except.ok.inj stored
    exact Function.update_of_ne apart ..

/-- The handed-over grant is accepted, so its record is one that the pipeline produced. -/
theorem small_transferred_accepted :
    (verifyRawDocumentWithSources Text.asciiCaseMapping smallTransferred smallVerifier
      (smallSources [smallTransition]) smallContext).isOk = true := by
  decide +kernel

/-- The grant of the transferred document. -/
def smallTransferredGrant : VerifiedTrustGrant :=
  (Results.valueOf _ small_transferred_accepted).verifiedGrant

/-- All time stamps of its record are the one instant. -/
theorem small_transferred_stamps :
    (VerifiedTrustGrantRecord.ofGrant smallTransferredGrant).timeStamps =
      List.replicate 5 smallInstant := by
  decide +kernel

/-- The grant of the transferred document is stored under two identifiers, and is restored from
what the first of them loads. -/
theorem small_texts_restored :
    ∃ later json record,
      storeGrants textPerIdentifier (fun _ => .error .invalidJsonDocument)
          [(⟨"a"⟩, smallTransferredGrant), (⟨"b"⟩, smallTransferredGrant)] = .ok later ∧
        textPerIdentifier.load later ⟨"a"⟩ = .ok json ∧
        VerifiedTrustGrantRecord.fromStr readSmallInstant (readTreeText
          (VerifiedTrustGrantRecord.ofGrant smallTransferredGrant).toValue.toTree) json =
            some record ∧
        record.tryToVerifiedGrant Text.asciiCaseMapping = .ok smallTransferredGrant := by
  have produced : Produced Text.asciiCaseMapping smallTransferredGrant :=
    ⟨smallTransferred, smallVerifier, _, .inr ⟨_, _, Results.value_of_eq _
      small_transferred_accepted⟩, rfl⟩
  have textRead : TextReadBack readSmallInstant (readTreeText
      (VerifiedTrustGrantRecord.ofGrant smallTransferredGrant).toValue.toTree)
      (VerifiedTrustGrantRecord.ofGrant smallTransferredGrant).toValue
      (VerifiedTrustGrantRecord.ofGrant smallTransferredGrant).timeStamps := by
    refine ⟨read_tree_text _, fun time listed => ?_⟩
    rw [small_transferred_stamps] at listed
    rw [List.eq_of_mem_replicate listed]
    exact small_stamp_read
  have restored := stored_texts_restored Text.asciiCaseMapping readSmallInstant _
    textPerIdentifier text_per_identifier_persists
    [(⟨"a"⟩, smallTransferredGrant), (⟨"b"⟩, smallTransferredGrant)]
    (by rintro entry (_ | ⟨_, _ | ⟨_, ⟨⟩⟩⟩) <;> exact produced)
    (by rintro entry (_ | ⟨_, _ | ⟨_, ⟨⟩⟩⟩) <;> exact textRead)
    (fun _ => .error .invalidJsonDocument) _ rfl ⟨"a"⟩ smallTransferredGrant rfl
  obtain ⟨json, record, loaded, read, isGrant⟩ := restored
  exact ⟨_, json, record, rfl, loaded, read, isGrant⟩

end TrustGrant
