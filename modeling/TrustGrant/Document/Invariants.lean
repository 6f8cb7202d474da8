import TrustGrant.Document.ValidatorRules
import TrustGrant.Library.Deduplication

/-!
# What validated documents satisfy

Validation establishes the shapes of selectors and scopes, sizes of collections, lengths of
strings, and that no selector, operation or audience authority is listed twice. Names carry
their own limits in their types. These invariants are stated for each part of a document, with
what is asked of a single selector as a parameter.
-/

namespace TrustGrant

open Rust Limits Library

/-- The values and the expressions of a selector are normalized and bounded. -/
structure SelectorInvariant (selector : ValidatedSelector) : Prop where
  shape : selector.all = true ↔ selector.values = [] ∧ selector.expressions = []
  valueCount : selector.values.length ≤ maxSelectorValuesPerSelector
  values : ∀ value ∈ selector.values, Normal value maxSelectorValueBytes
  expressionCount : selector.expressions.length ≤ maxSelectorExpressionsPerSelector
  expressions : ∀ expression ∈ selector.expressions, expression.Printable

/-- What validation establishes about one selector. -/
def PublishedSelector (selector : ValidatedSelector) : Prop :=
  SelectorInvariant selector ∧ selector.values.Nodup

/-- A list of selectors is bounded and lists none of them twice. -/
structure SelectorsInvariant (holds : ValidatedSelector → Prop)
    (selectors : List ValidatedSelector) : Prop where
  count : selectors.length ≤ maxSelectorsPerScope
  each : ∀ selector ∈ selectors, holds selector
  distinct : selectors.Pairwise fun earlier later => ¬ later.sameSelector earlier = true

/-- Both lists of a validated scope are within the limit and distinct. -/
structure ScopeInvariant (holds : ValidatedSelector → Prop) (scope : ValidatedScope) : Prop where
  shape : scope.all = true ↔ scope.allow = []
  allow : SelectorsInvariant holds scope.allow
  deny : SelectorsInvariant holds scope.deny

/-- The authority is lower-cased, and both scopes have their invariant. -/
structure AudienceEntryInvariant (mapping : Text.CaseMapping) (holds : ValidatedSelector → Prop)
    (entry : ValidatedAudienceEntry) : Prop where
  authority : entry.authorityId.Lowercased mapping
  scope : ScopeInvariant holds entry.scope
  principalScope : ∀ scope ∈ entry.principalScope, ScopeInvariant holds scope

/-- A list of audience entries is bounded and names no authority twice. -/
structure AudienceInvariant (mapping : Text.CaseMapping) (holds : ValidatedSelector → Prop)
    (entries : List ValidatedAudienceEntry) : Prop where
  count : entries.length ≤ maxAudienceEntries
  each : ∀ entry ∈ entries, AudienceEntryInvariant mapping holds entry
  distinct : entries.Pairwise fun earlier later => ¬ later.authorityId = earlier.authorityId

/-- The operations of a scope are bounded, and it lists none of them twice. -/
structure OperationsInvariant (scope : ValidatedOperationScope) : Prop where
  present : scope.allow ≠ []
  allowCount : scope.allow.length ≤ maxOperationsPerScope
  denyCount : scope.deny.length ≤ maxOperationsPerScope
  allowDistinct : scope.allow.Nodup
  denyDistinct : scope.deny.Nodup

/-- The lists, the audience and the operations of a validated type have their invariants. -/
structure ResourceTypeInvariant (mapping : Text.CaseMapping) (holds : ValidatedSelector → Prop)
    (resourceType : ValidatedResourceType) : Prop where
  shape : resourceType.all = true ↔ resourceType.allow = []
  allow : SelectorsInvariant holds resourceType.allow
  deny : SelectorsInvariant holds resourceType.deny
  audience : AudienceInvariant mapping holds resourceType.constraints.audienceScope
  operations : ∀ scope ∈ resourceType.operations, OperationsInvariant scope

/-- A map of resource types is bounded. -/
structure ResourceScopeInvariant (mapping : Text.CaseMapping) (holds : ValidatedSelector → Prop)
    (types : SortedMap ResourceTypeName ValidatedResourceType) : Prop where
  count : types.len ≤ maxResourceTypes
  each : ∀ entry ∈ types.entries, ResourceTypeInvariant mapping holds entry.2

/-- Values that the loop over selectors accepted satisfy the invariant of lists of them. The
length is that of what was read, and the pairwise difference is what the loop checks. -/
theorem selectors_invariant_of_read {ρ : Type} {holds : ValidatedSelector → Prop}
    {valid : ρ → ValidatedSelector → Prop} {inputs : List ρ} {selectors : List ValidatedSelector}
    (short : inputs.length ≤ maxSelectorsPerScope) (read : List.Forall₂ valid inputs selectors)
    (each : ∀ input ∈ inputs, ∀ selector, valid input selector → holds selector)
    (distinct : selectors.Pairwise fun earlier later => ¬ later.sameSelector earlier = true) :
    SelectorsInvariant holds selectors := by
  refine ⟨read.length_eq ▸ short, fun selector member => ?_, distinct⟩
  obtain ⟨input, inside, isValid⟩ := Results.paired_input read selector member
  exact each input inside selector isValid

/-- A validated selector. Its values are trimmed, within their limits and distinct, because equal
ones were dropped; its expressions are printable, because each was parsed. -/
theorem published_selector (raw : RawSelector) (selector : ValidatedSelector)
    (accepted : validateSelector raw = .ok selector) : PublishedSelector selector := by
  obtain ⟨-, -, normalized, parsed⟩ := (validate_selector_ok_iff raw selector).mp accepted
  obtain ⟨valueCount, trimmed, normal, erased⟩ :=
    (normalize_non_empty_strings_ok_iff _ _).mp normalized
  obtain ⟨expressionCount, read⟩ := (validate_selector_expressions_ok_iff _ _).mp parsed
  obtain ⟨sameCount, normals⟩ := normals_of_normalized _ _ _ _ normal
  obtain ⟨sameExpressions, printables⟩ := printables_of_read _ _ read
  have kept := Deduplication.erase_dups_sublist trimmed
  rw [erased] at kept
  refine ⟨⟨selector.shape, ?_, fun value member => normals value (kept.subset member), ?_,
    printables⟩, ?_⟩
  · exact (kept.length_le.trans_eq sameCount).trans valueCount
  · exact sameExpressions ▸ expressionCount
  · exact erased ▸ Deduplication.erase_dups_nodup trimmed

/-- Validated selectors. -/
theorem published_selectors (raw : Option (List RawSelector)) (selectors : List ValidatedSelector)
    (accepted : validateSelectors raw = .ok selectors) :
    SelectorsInvariant PublishedSelector selectors := by
  obtain ⟨short, read, distinct⟩ := (validate_selectors_ok_iff raw selectors).mp accepted
  exact selectors_invariant_of_read short read (fun input _ => published_selector input) distinct

/-- A validated scope. -/
theorem published_scope (scopeName : String) (raw : RawScope) (scope : ValidatedScope)
    (accepted : validateScope scopeName raw = .ok scope) :
    ScopeInvariant PublishedSelector scope := by
  obtain ⟨-, allowed, denied⟩ := (validate_scope_ok_iff scopeName raw scope).mp accepted
  exact ⟨scope.shape, published_selectors _ _ allowed, published_selectors _ _ denied⟩

variable {mapping : Text.CaseMapping}

/-- Validated audience entries. Every entry is made from a wire entry, whose authority was
lower-cased and whose scopes were validated. -/
theorem published_audience (scopeName : String) (raw : Option (List RawAudienceEntry))
    (entries : List ValidatedAudienceEntry)
    (accepted : validateAudienceEntries mapping scopeName raw = .ok entries) :
    AudienceInvariant mapping PublishedSelector entries := by
  obtain ⟨short, read, distinct⟩ :=
    (validate_audience_entries_ok_iff mapping scopeName raw entries).mp accepted
  refine ⟨read.length_eq ▸ short, fun entry member => ?_, distinct⟩
  obtain ⟨input, -, made⟩ := Results.paired_input read entry member
  refine ⟨AuthorityId.lowercased_of_new _ _ _ made.authority,
    published_scope _ _ _ made.scope, fun scope present => ?_⟩
  obtain ⟨rawScope, -, validated⟩ :=
    Results.map_option_input _ _ _ made.principalScope scope present
  exact published_scope _ _ _ validated

/-- A validated operation scope. The lists are as long as those of the wire document, which were
within the limit. -/
theorem published_operations (raw : RawOperationScope) (scope : ValidatedOperationScope)
    (accepted : validateOperationScope raw = .ok scope) : OperationsInvariant scope := by
  obtain ⟨allowed, denied⟩ := (validate_operation_scope_ok_iff raw scope).mp accepted
  have within : ∀ (values : Option (List String)) (names : List OperationName),
      normalizeNonEmptyOperationNames values = .ok names →
        names.length ≤ maxOperationsPerScope := by
    intro values names normalized
    obtain ⟨short, read⟩ := (normalize_operation_names_ok_iff values names).mp normalized
    exact ((Results.map_list_ok_iff _ _ _).mp read).length_eq ▸ short
  exact ⟨scope.present, within _ _ allowed, within _ _ denied, scope.allowDistinct,
    scope.denyDistinct⟩

/-- A validated resource type. -/
theorem published_resource_type (raw : RawResourceType) (resourceType : ValidatedResourceType)
    (made : ResourceTypeFrom mapping raw resourceType) :
    ResourceTypeInvariant mapping PublishedSelector resourceType := by
  refine ⟨resourceType.shape, published_selectors _ _ made.allow, published_selectors _ _ made.deny,
    published_audience _ _ _ made.audience, fun scope present => ?_⟩
  obtain ⟨rawScope, -, validated⟩ := Results.map_option_input _ _ _ made.operations scope present
  exact published_operations rawScope scope validated

/-- A map collected from entries that each satisfy the invariant satisfies it. -/
theorem resource_scope_of_entries {holds : ValidatedSelector → Prop}
    (entries : List (ResourceTypeName × ValidatedResourceType))
    (short : entries.length ≤ maxResourceTypes)
    (each : ∀ entry ∈ entries, ResourceTypeInvariant mapping holds entry.2) :
    ResourceScopeInvariant mapping holds (.ofEntries entries) :=
  ⟨(SortedMap.of_entries_len entries).trans short,
    fun entry member => each entry (SortedMap.mem_of_entries entries entry member)⟩

/-- A validated resource scope. The types that were validated one by one are collected into a
map, which cannot have more of them. -/
theorem published_resource_scope (raw : RawResourceScope)
    (types : SortedMap ResourceTypeName ValidatedResourceType)
    (accepted : validateResourceScope mapping raw = .ok types) :
    ResourceScopeInvariant mapping PublishedSelector types := by
  obtain ⟨short, entries, read, rfl⟩ :=
    (validate_resource_scope_ok_iff mapping raw types).mp accepted
  refine resource_scope_of_entries entries (read.length_eq ▸ short) fun entry member => ?_
  obtain ⟨input, -, -, made⟩ := Results.paired_input read entry member
  exact published_resource_type _ _ made

end TrustGrant
