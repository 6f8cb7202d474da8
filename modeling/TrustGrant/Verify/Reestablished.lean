import TrustGrant.Verify.RecordRules

/-!
# What reading a stored grant establishes

A record may hold anything. Whatever it holds, a grant that is read from it satisfies the
invariants of verified grants, and where no stored selector lists a value twice its
selectors do not either. The revocation record is the exception: it is taken over without
its constructor, so its evidence ends before it begins exactly when the stored one does.

Each invariant is proved for what one reader returns, from its inversion, and the
consistency check adds what the readers leave out. The order of the evidence is the one
thing that neither of them looks at.
-/

namespace TrustGrant

open Rust Limits Library

/-! ## The selectors of a record -/

section Selectors

variable (given : SelectorRecord → Prop)

/-- Every selector of a stored scope is as given. -/
def ScopeRecord.Each (record : ScopeRecord) : Prop :=
  (∀ selector ∈ record.allow, given selector) ∧ ∀ selector ∈ record.deny, given selector

/-- Every selector of the two scopes of a stored entry is as given. -/
def AudienceEntryRecord.Each (record : AudienceEntryRecord) : Prop :=
  record.scope.Each given ∧ ∀ scope ∈ record.principalScope, scope.Each given

/-- Every selector of a stored type and of its audience is as given. -/
def ResourceTypeRecord.Each (record : ResourceTypeRecord) : Prop :=
  (∀ selector ∈ record.allow, given selector) ∧ (∀ selector ∈ record.deny, given selector) ∧
    ∀ entry ∈ record.constraints.audienceScope, entry.Each given

/-- Every selector of a stored document. -/
structure NormalizedTrustGrantDocumentRecord.Each (record : NormalizedTrustGrantDocumentRecord) :
    Prop where
  targetScope : record.targetScope.Each given
  audience : ∀ entry ∈ record.defaultAudienceScope, entry.Each given
  resources : ∀ entry ∈ record.resourceScope.entries, entry.2.Each given

end Selectors

/-- What holds of every record holds of those of a document. -/
theorem NormalizedTrustGrantDocumentRecord.each_of_all
    (record : NormalizedTrustGrantDocumentRecord) (given : SelectorRecord → Prop)
    (all : ∀ selector, given selector) : record.Each given := by
  constructor <;> simp [ScopeRecord.Each, AudienceEntryRecord.Each, ResourceTypeRecord.Each, all]

/-- A stored selector lists no value twice, blanks around values aside. -/
def SelectorRecord.ValuesDistinct (record : SelectorRecord) : Prop :=
  (record.values.map Text.trim).Nodup

/-! ## What reading establishes of each part -/

section Parts

variable {mapping : Text.CaseMapping} {given : SelectorRecord → Prop}
  {holds : ValidatedSelector → Prop}

/-- Selectors that are read are as reading establishes, and distinct. What is established of one
selector is a parameter. -/
theorem selectors_of_read
    (establishes : ∀ record selector, record.tryToValidatedSelector = .ok selector →
      given record → holds selector)
    (records : List SelectorRecord) (each : ∀ record ∈ records, given record)
    (selectors : List ValidatedSelector) (read : SelectorsRead records selectors) :
    SelectorsInvariant holds selectors := by
  obtain ⟨paired, distinct⟩ := (read_selectors_ok_iff records selectors).mp read.2
  exact selectors_invariant_of_read read.1 paired
    (fun record inside selector isRead => establishes record selector isRead (each record inside))
    distinct

variable (establishes : ∀ record selector, record.tryToValidatedSelector = .ok selector →
  given record → holds selector)
include establishes

/-- A scope that is read has the invariant of validated scopes. -/
theorem scope_of_read (record : ScopeRecord) (each : record.Each given) (scopeName : String)
    (scope : ValidatedScope) (read : record.tryToValidatedScope scopeName = .ok scope) :
    ScopeInvariant holds scope := by
  obtain ⟨-, allowed, denied⟩ := (read_scope_ok_iff record scopeName scope).mp read
  exact ⟨scope.shape, selectors_of_read establishes _ each.1 _ allowed,
    selectors_of_read establishes _ each.2 _ denied⟩

/-- Entries that are read satisfy the invariant once their authorities are known to differ. The
readers do not compare them; the consistency check does. -/
theorem audience_of_read (records : List AudienceEntryRecord)
    (each : ∀ record ∈ records, record.Each given) (scopeName : String)
    (entries : List ValidatedAudienceEntry)
    (read : AudienceRead mapping scopeName records entries)
    (distinct : entries.Pairwise fun earlier later => ¬ later.authorityId = earlier.authorityId) :
    AudienceInvariant mapping holds entries := by
  obtain ⟨short, paired⟩ := read
  refine ⟨paired.length_eq ▸ short, fun entry member => ?_, distinct⟩
  obtain ⟨record, inside, entryRead⟩ := Results.paired_input paired entry member
  obtain ⟨scopeEach, principalEach⟩ := each record inside
  refine ⟨AuthorityId.lowercased_of_new _ _ _ entryRead.authority,
    scope_of_read establishes _ scopeEach _ _ entryRead.scope, fun scope present => ?_⟩
  obtain ⟨scopeRecord, stored, scopeRead⟩ :=
    Results.map_option_input _ _ _ entryRead.principalScope scope present
  exact scope_of_read establishes _ (principalEach scopeRecord stored) _ _ scopeRead

omit establishes in

/-- A scope of operations that is read has the invariant of validated ones. The limit is checked
on the stored lists, which are as long. -/
theorem operations_of_read (record : OperationScopeRecord) (scope : ValidatedOperationScope)
    (read : record.tryToValidatedOperationScope = .ok scope) : OperationsInvariant scope := by
  obtain ⟨allowed, denied⟩ := (read_operation_scope_ok_iff record scope).mp read
  have within : ∀ (records : List String) (names : List OperationName),
      OperationsRead records names → names.length ≤ maxOperationsPerScope := by
    rintro records names ⟨short, named⟩
    exact ((Results.map_list_ok_iff _ _ _).mp named).length_eq ▸ short
  exact ⟨scope.present, within _ _ allowed, within _ _ denied, scope.allowDistinct,
    scope.denyDistinct⟩

/-- A type that is read has the invariant of validated ones, once its audience is known to be
distinct, which reading alone does not check. -/
theorem resource_type_of_read (record : ResourceTypeRecord) (each : record.Each given)
    (resourceType : ValidatedResourceType) (read : ResourceTypeRead mapping record resourceType)
    (distinct : resourceType.constraints.audienceScope.Pairwise
      fun earlier later => ¬ later.authorityId = earlier.authorityId) :
    ResourceTypeInvariant mapping holds resourceType := by
  obtain ⟨allowEach, denyEach, audienceEach⟩ := each
  refine ⟨resourceType.shape, selectors_of_read establishes _ allowEach _ read.allow,
    selectors_of_read establishes _ denyEach _ read.deny,
    audience_of_read establishes _ audienceEach _ _ read.audience distinct, fun scope present => ?_⟩
  obtain ⟨scopeRecord, -, scopeRead⟩ := Results.map_option_input _ _ _ read.operations scope present
  exact operations_of_read scopeRecord scope scopeRead

omit establishes in

/-- A lineage that is read has the invariant of validated ones. A stored policy that cannot be
published is refused when it is read. -/
theorem lineage_of_read (record : NormalizedTrustGrantDocumentRecord)
    (document : NormalizedTrustGrantDocument) (read : DocumentRead mapping record document) :
    LineageInvariant document.lineage := by
  refine ⟨fun first => ?_, read.notItself, ?_⟩
  · cases superseded : document.lineage.supersedes with
    | none => rfl
    | some previous => exact absurd ⟨first, by rw [superseded]; rfl⟩ read.firstRevision
  · have policy := read.supersessionPolicy
    intro explicit
    rw [explicit] at policy
    cases stored : record.supersessionPolicy <;> rw [stored] at policy <;> cases policy

omit establishes in
/-- The lower-cased authorities of a document that is read. -/
theorem authorities_of_read (record : NormalizedTrustGrantDocumentRecord)
    (document : NormalizedTrustGrantDocument) (read : DocumentRead mapping record document) :
    AuthoritiesLowercased mapping document :=
  ⟨AuthorityId.lowercased_of_new _ _ _ read.issuerAuthority,
    AuthorityId.lowercased_of_new _ _ _ read.originAuthority,
    AuthorityId.lowercased_of_new _ _ _ read.activeOwningAuthority⟩

/-- A document that is read satisfies the invariants once its audience authorities are known
to differ. -/
theorem document_of_read (record : NormalizedTrustGrantDocumentRecord) (each : record.Each given)
    (document : NormalizedTrustGrantDocument) (read : DocumentRead mapping record document)
    (distinct : AudiencesDistinct document) : DocumentInvariant mapping holds document := by
  obtain ⟨types, paired, collected⟩ := read.resources
  have resources : ResourceScopeInvariant mapping holds document.resourceScope := by
    constructor
    · rw [← collected]
      exact (SortedMap.of_entries_len types).trans (paired.length_eq ▸ read.resourceCount)
    · intro entry member
      have listed : entry ∈ types := SortedMap.mem_of_entries types entry (collected ▸ member)
      obtain ⟨input, inside, -, typeRead⟩ := Results.paired_input paired entry listed
      exact resource_type_of_read establishes _ (each.resources input inside) _ typeRead
        (distinct.types entry member)
  exact {
    lineage := lineage_of_read record document read
    authorities := authorities_of_read record document read
    targetScope := scope_of_read establishes _ each.targetScope _ _ read.targetScope
    audience := audience_of_read establishes _ each.audience _ _ read.audience distinct.default
    resources
    timeWindow := fun window _ => window.ordered }

/-- A grant that is read satisfies the invariants, and its revocation state is the stored one.
The parts come from the readers, the comparison of audiences from the consistency check. -/
theorem established_of_read (record : VerifiedTrustGrantRecord) (each : record.document.Each given)
    (grant : VerifiedTrustGrant) (read : record.tryToVerifiedGrant mapping = .ok grant) :
    GrantInvariant mapping holds grant ∧
      grant.metadata.revocation = record.metadata.revocation := by
  simp only [VerifiedTrustGrantRecord.tryToVerifiedGrant,
    VerificationMetadataRecord.tryIntoMetadata,
    Results.bind_ok_iff, Results.pure_ok_iff] at read
  obtain ⟨-, -, document, documentRead, metadata, ⟨binding, -, ownership, -, rfl⟩, ⟨⟩, consistent,
    rfl⟩ := read
  have parts := (read_document_ok_iff _ _).mp documentRead
  obtain ⟨distinct, agrees⟩ :=
    established_of_consistent _ (authorities_of_read _ _ parts) consistent
  exact ⟨⟨document_of_read establishes _ each _ parts distinct, agrees⟩, rfl⟩

end Parts

/-- Every selector that is read is normalized and bounded. That its values differ is not checked
on this way. -/
theorem selector_of_read (record : SelectorRecord) (selector : ValidatedSelector)
    (read : record.tryToValidatedSelector = .ok selector) : SelectorInvariant selector := by
  obtain ⟨valueCount, expressionCount, -, -, normalized, parsed⟩ :=
    (read_selector_ok_iff record selector).mp read
  obtain ⟨sameCount, normals⟩ := normals_of_normalized _ _ _ _ normalized
  obtain ⟨sameExpressions, printables⟩ := printables_of_read _ _ parsed
  exact ⟨selector.shape, sameCount ▸ valueCount, normals, sameExpressions ▸ expressionCount,
    printables⟩

/-- A selector that is read from distinct values lists none of them twice. -/
theorem published_of_read (record : SelectorRecord) (selector : ValidatedSelector)
    (read : record.tryToValidatedSelector = .ok selector) (distinct : record.ValuesDistinct) :
    PublishedSelector selector := by
  obtain ⟨-, -, -, -, normalized, -⟩ := (read_selector_ok_iff record selector).mp read
  refine ⟨selector_of_read record selector read, ?_⟩
  rw [trimmed_of_normalized _ _ _ _ normalized]
  exact distinct

/-- The evidence of a checked revocation does not end before it begins. -/
def EvidenceOrdered (revocation : VerifiedRevocationState) : Prop :=
  ∀ record ∈ revocation.checkedRecord, record.checkedAt ≤ record.freshUntil

variable {mapping : Text.CaseMapping}

/-- A grant that is read satisfies the invariants of verified grants exactly when the stored
revocation evidence does not end before it begins. Where moreover no stored selector lists a
value twice, it satisfies all that the pipeline establishes.

Proof: the readers establish the invariants of every part and take the revocation state over as
it is stored. That no value is listed twice is the only invariant of published documents which
they do not check. -/
theorem reestablished_iff (record : VerifiedTrustGrantRecord) (grant : VerifiedTrustGrant)
    (read : record.tryToVerifiedGrant mapping = .ok grant) :
    (GrantInvariant mapping SelectorInvariant grant ∧
        EvidenceOrdered grant.metadata.revocation ↔
      EvidenceOrdered record.metadata.revocation) ∧
    (record.document.Each SelectorRecord.ValuesDistinct →
      GrantInvariant mapping PublishedSelector grant) := by
  have anySelector := record.document.each_of_all (fun _ => True) fun _ => trivial
  obtain ⟨established, copied⟩ := established_of_read
    (fun stored selector isRead _ => selector_of_read stored selector isRead) record anySelector
    grant read
  refine ⟨?_, fun distinct => (established_of_read published_of_read record distinct grant read).1⟩
  rw [copied]
  exact ⟨fun ordered => ordered.2, fun ordered => ⟨established, ordered⟩⟩

/-- One hour after the small instant. -/
def smallLater : DateTime := ⟨1775566800, 0, by decide, by decide, by decide⟩

/-- The record of a small revocable grant, verified and fresh at the small instant; when its
revocation was checked is left open. -/
def smallRecord (checkedAt : DateTime) : VerifiedTrustGrantRecord where
  recordVersion := 1
  document := {
    trustgrantId := "tg_123e4567-e89b-12d3-a456-426614174000"
    grantSeriesId := "tgs_123e4567-e89b-12d3-a456-426614174001"
    revision := 1
    supersedes := none
    supersessionPolicy := .coexist
    issuerAuthority := "did:i"
    originAuthority := "did:i"
    activeOwningAuthority := "did:i"
    keyId := "k"
    targetScope := ⟨true, [], []⟩
    capabilities := ⟨true, true⟩
    defaultAudienceScope := []
    resourceScope := .empty
    globalTimeWindow := none
    revocation := some ⟨true, "e", .blockAll⟩
    issuedAt := smallInstant
    issuerPrincipal := none
    interoperabilityProfile := none }
  metadata := {
    verifiedAt := smallInstant
    posture := .online
    signerBinding := ⟨"did:i", ⟨"k", "a", "p", smallInstant, smallInstant⟩, ⟨"f", "RFC8785"⟩, none⟩
    ownership := ⟨"did:i", "did:i", smallInstant, .staticOwner, none⟩
    revocation := .checked ⟨.active, .api, .observed, checkedAt, smallInstant⟩ }

/-- A record whose evidence is ordered is read as a grant that satisfies every invariant. The
order of the evidence is the one condition that the readers leave to the record. -/
theorem small_record_reestablished :
    ∃ grant, (smallRecord smallInstant).tryToVerifiedGrant Text.asciiCaseMapping = .ok grant ∧
      GrantInvariant Text.asciiCaseMapping SelectorInvariant grant ∧
      EvidenceOrdered grant.metadata.revocation := by
  have read := Results.value_of_eq
    ((smallRecord smallInstant).tryToVerifiedGrant Text.asciiCaseMapping) (by decide +kernel)
  have ordered : EvidenceOrdered (smallRecord smallInstant).metadata.revocation := by
    rintro record ⟨⟩
    decide +kernel
  exact ⟨_, read, ((reestablished_iff _ _ read).1.mpr ordered).1,
    ((reestablished_iff _ _ read).1.mpr ordered).2⟩

/-- A record is read whose evidence ends before it begins. The derived reader fills the fields of
the evidence directly and does not go through its constructor, which refuses such periods. -/
theorem inverted_evidence_accepted :
    ∃ grant, (smallRecord smallLater).tryToVerifiedGrant Text.asciiCaseMapping = .ok grant ∧
      ¬ EvidenceOrdered grant.metadata.revocation := by
  refine ⟨_, Results.value_of_eq
    ((smallRecord smallLater).tryToVerifiedGrant Text.asciiCaseMapping) (by decide +kernel), ?_⟩
  intro ordered
  exact absurd (ordered _ rfl) (by decide +kernel)

end TrustGrant
