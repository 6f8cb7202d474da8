import TrustGrant.Document.Validated
import TrustGrant.Domain.ExpressionText

/-!
# What the validators accept

Each validator succeeds with a value exactly when its parts are the accepted parts of the
input. Read one way these rules give what validation establishes, read the other way they
put a value together again from what was written of it.
-/

namespace TrustGrant

open Rust Limits Library

/-- A text as normalization leaves it. -/
structure Normal (value : String) (maxBytes : Nat) : Prop where
  trimmed : Text.trim value = value
  present : Text.isEmpty value = false
  within : Text.len value ≤ maxBytes

/-- What normalization accepts and returns. The result is normal, which means that normalizing it
again returns it; stored texts are read back by this. -/
theorem normalize_non_empty_string_ok_iff (fieldName value : String) (maxBytes : Nat)
    (normalized : String) :
    normalizeNonEmptyString fieldName value (some maxBytes) = .ok normalized ↔
      normalized = Text.trim value ∧ Normal normalized maxBytes := by
  simp only [normalizeNonEmptyString, Results.bind_ok_iff, normalize_non_empty_ok_iff,
    ensure_string_limit_ok_iff, exists_const, Results.pure_ok_iff]
  constructor
  · rintro ⟨trimmed, ⟨rfl, present⟩, within, rfl⟩
    exact ⟨rfl, Text.trim_trim value, present, within⟩
  · rintro ⟨rfl, normal⟩
    exact ⟨_, ⟨rfl, normal.present⟩, normal.within, rfl⟩

/-- A normalized text is left alone. -/
theorem normalize_normal (fieldName value : String) (maxBytes : Nat)
    (normal : Normal value maxBytes) :
    normalizeNonEmptyString fieldName value (some maxBytes) = .ok value :=
  (normalize_non_empty_string_ok_iff _ _ _ _).mpr ⟨normal.trimmed.symm, normal⟩

/-- Normalized texts are left alone. -/
theorem normalize_normals (fieldName : String) (values : List String) (maxBytes : Nat)
    (normal : ∀ value ∈ values, Normal value maxBytes) :
    (values.mapM fun value => normalizeNonEmptyString fieldName value (some maxBytes)) =
      .ok values := by
  rw [Results.map_list_ok_iff, List.forall₂_same]
  exact fun value member => normalize_normal fieldName value maxBytes (normal value member)

/-- Normalization yields normalized texts. There are as many of them as there were values, since
each value is read or refused. -/
theorem normals_of_normalized (fieldName : String) (values normalized : List String)
    (maxBytes : Nat)
    (accepted : (values.mapM fun value =>
      normalizeNonEmptyString fieldName value (some maxBytes)) = .ok normalized) :
    normalized.length = values.length ∧ ∀ value ∈ normalized, Normal value maxBytes := by
  rw [Results.map_list_ok_iff] at accepted
  refine ⟨accepted.length_eq.symm, fun value member => ?_⟩
  obtain ⟨input, -, checked⟩ := Results.paired_input accepted value member
  exact ((normalize_non_empty_string_ok_iff _ _ _ _).mp checked).2

/-- Normalized texts are the given ones without the blanks around them. So two lists of texts
that differ in blanks have one result. -/
theorem trimmed_of_normalized (fieldName : String) (values normalized : List String)
    (maxBytes : Nat)
    (accepted : (values.mapM fun value =>
      normalizeNonEmptyString fieldName value (some maxBytes)) = .ok normalized) :
    normalized = values.map Text.trim := by
  rw [Results.map_list_ok_iff] at accepted
  have trimmed : List.Forall₂ (fun input output => Text.trim input = output) values normalized :=
    accepted.imp fun input output checked =>
      ((normalize_non_empty_string_ok_iff _ _ _ _).mp checked).1.symm
  rw [← List.forall₂_map_left_iff, List.forall₂_eq_eq_eq] at trimmed
  exact trimmed.symm

/-- The text of a printable expression is a normalized text. -/
theorem normal_expression (expression : SelectorExpression) (printable : expression.Printable) :
    Normal expression.toString maxSelectorExpressionBytes :=
  ⟨expression.trim_to_string, by simp [Text.isEmpty, expression.to_string_parts],
    printable.short⟩

/-- One expression, normalized and parsed. -/
def readSelectorExpression (expression : String) : Except TrustGrantError SelectorExpression := do
  let expression ← normalizeNonEmptyString "selector.expression" expression
    (some maxSelectorExpressionBytes)
  SelectorExpression.parse expression

/-- Expressions that were read can be printed. Printing is what stores them, so this is needed
wherever a stored scope is read back. -/
theorem printables_of_read (texts : List String) (expressions : List SelectorExpression)
    (accepted : texts.mapM readSelectorExpression = .ok expressions) :
    expressions.length = texts.length ∧ ∀ expression ∈ expressions, expression.Printable := by
  rw [Results.map_list_ok_iff] at accepted
  refine ⟨accepted.length_eq.symm, fun expression member => ?_⟩
  obtain ⟨text, -, read⟩ := Results.paired_input accepted expression member
  obtain ⟨normalized, -, parsed⟩ := (Results.bind_ok_iff _ _ _).mp read
  exact expression.printable_of_parse normalized parsed

/-- The text of a printable expression is read as this expression. -/
theorem read_printed (expression : SelectorExpression) (printable : expression.Printable) :
    readSelectorExpression expression.toString = .ok expression :=
  (Results.bind_ok_iff _ _ _).mpr ⟨expression.toString,
    normalize_normal _ _ _ (normal_expression expression printable),
    expression.parse_to_string printable⟩

/-! ## Checked constructors

Each constructor accepts exactly the parts of a value of its type.
-/

/-- A selector is made of its parts when their shape is right, which the result carries as a
proof. -/
theorem selector_new_ok_iff (kind : SelectorKind) (all : Bool) (values : List String)
    (expressions : List SelectorExpression) (selector : ValidatedSelector) :
    ValidatedSelector.new kind all values expressions = .ok selector ↔
      selector.kind = kind ∧ selector.all = all ∧ selector.values = values ∧
        selector.expressions = expressions := by
  unfold ValidatedSelector.new
  constructor
  · intro accepted
    split at accepted <;> cases accepted
    exact ⟨rfl, rfl, rfl, rfl⟩
  · rintro ⟨rfl, rfl, rfl, rfl⟩
    rw [dif_pos selector.shape]

/-- A scope is made of its parts. Its shape is a field of the type, so the constructor fails
exactly where no such value exists. -/
theorem scope_new_ok_iff (scopeName : String) (all : Bool) (allow deny : List ValidatedSelector)
    (scope : ValidatedScope) :
    ValidatedScope.new scopeName all allow deny = .ok scope ↔
      scope.all = all ∧ scope.allow = allow ∧ scope.deny = deny := by
  unfold ValidatedScope.new
  constructor
  · intro accepted
    split at accepted <;> cases accepted
    exact ⟨rfl, rfl, rfl⟩
  · rintro ⟨rfl, rfl, rfl⟩
    rw [dif_pos scope.shape]

/-- A scope of operations is made of its two lists. -/
theorem operation_scope_new_ok_iff (allow deny : List OperationName)
    (scope : ValidatedOperationScope) :
    ValidatedOperationScope.new allow deny = .ok scope ↔
      scope.allow = allow ∧ scope.deny = deny := by
  unfold ValidatedOperationScope.new
  constructor
  · intro accepted
    split at accepted
    · split at accepted
      · split at accepted <;> cases accepted
        exact ⟨rfl, rfl⟩
      · cases accepted
    · cases accepted
  · rintro ⟨rfl, rfl⟩
    rw [dif_pos scope.present, dif_pos scope.allowDistinct, dif_pos scope.denyDistinct]

/-- A resource type is made of its parts. -/
theorem resource_type_new_ok_iff (all : Bool) (allow deny : List ValidatedSelector)
    (capabilities : ValidatedTypeCapabilities) (constraints : ValidatedTypeConstraints)
    (operations : Option ValidatedOperationScope) (resourceType : ValidatedResourceType) :
    ValidatedResourceType.new all allow deny capabilities constraints operations =
        .ok resourceType ↔
      resourceType.all = all ∧ resourceType.allow = allow ∧ resourceType.deny = deny ∧
        resourceType.capabilities = capabilities ∧ resourceType.constraints = constraints ∧
        resourceType.operations = operations := by
  unfold ValidatedResourceType.new
  constructor
  · intro accepted
    split at accepted <;> cases accepted
    exact ⟨rfl, rfl, rfl, rfl, rfl, rfl⟩
  · rintro ⟨rfl, rfl, rfl, rfl, rfl, rfl⟩
    rw [dif_pos resourceType.shape]

/-- A window is made of its ends. That they are in order is a field of the type. -/
theorem time_window_new_ok_iff (notBefore notAfter : DateTime) (window : ValidatedTimeWindow) :
    ValidatedTimeWindow.new notBefore notAfter = .ok window ↔
      window.notBefore = notBefore ∧ window.notAfter = notAfter := by
  unfold ValidatedTimeWindow.new
  constructor
  · intro accepted
    split at accepted <;> cases accepted
    exact ⟨rfl, rfl⟩
  · rintro ⟨rfl, rfl⟩
    rw [dif_pos window.ordered]

/-! ## Validators

What each validator accepts, in terms of the validators of the parts.
-/

/-- Values are normalized one by one, and the first of equal ones is kept. That is not an error,
so two different lists may have one result. -/
theorem normalize_non_empty_strings_ok_iff (values : Option (List String))
    (normalized : List String) :
    normalizeNonEmptyStrings values = .ok normalized ↔
      (values.getD []).length ≤ maxSelectorValuesPerSelector ∧
        ∃ trimmed, ((values.getD []).mapM fun value =>
            normalizeNonEmptyString "selector.value" value (some maxSelectorValueBytes)) =
          .ok trimmed ∧ trimmed.eraseDups = normalized := by
  simp only [normalizeNonEmptyStrings, Results.bind_ok_iff, ensure_collection_limit_ok_iff,
    exists_const, Results.pure_ok_iff]

/-- Expressions are parsed one by one within the limit on their number. Unlike values they are
not compared with each other. -/
theorem validate_selector_expressions_ok_iff (expressions : Option (List String))
    (parsed : List SelectorExpression) :
    validateSelectorExpressions expressions = .ok parsed ↔
      (expressions.getD []).length ≤ maxSelectorExpressionsPerSelector ∧
        (expressions.getD []).mapM readSelectorExpression = .ok parsed := by
  simp only [validateSelectorExpressions, Results.bind_ok_iff, ensure_collection_limit_ok_iff,
    exists_const]
  rfl

/-- A selector is validated part by part; the flag is taken over. Its shape is checked last, by
the constructor. -/
theorem validate_selector_ok_iff (raw : RawSelector) (selector : ValidatedSelector) :
    validateSelector raw = .ok selector ↔
      SelectorKind.new raw.kind = .ok selector.kind ∧ selector.all = raw.all ∧
        normalizeNonEmptyStrings raw.values = .ok selector.values ∧
        validateSelectorExpressions raw.expressions = .ok selector.expressions := by
  simp only [validateSelector, Results.bind_ok_iff, selector_new_ok_iff]
  constructor
  · rintro ⟨kind, named, values, normalized, expressions, parsed, rfl, isAll, rfl, rfl⟩
    exact ⟨named, isAll, normalized, parsed⟩
  · rintro ⟨named, isAll, normalized, parsed⟩
    exact ⟨_, named, _, normalized, _, parsed, rfl, isAll, rfl, rfl⟩

/-- A selector is fresh when it differs from all seen before it. -/
theorem not_contains_iff (seen : List ValidatedSelector) (selector : ValidatedSelector) :
    ¬ seen.contains selector = true ↔
      ∀ earlier ∈ seen, ¬ selector.sameSelector earlier = true := by
  rw [List.contains_eq_any_beq, List.any_eq_true]
  simp only [not_exists, not_and]
  rfl

/-- A loop that rejects a selector it has seen accepts valid selectors that differ pairwise. The
check of one selector is a parameter, since wire documents and stored records share the loop. -/
theorem unique_selectors_ok_iff {ρ : Type} (check : ρ → Except TrustGrantError ValidatedSelector)
    (loop : List ValidatedSelector → List ρ → Except TrustGrantError (List ValidatedSelector))
    (done : ∀ seen, loop seen [] = .ok [])
    (step : ∀ seen input rest, loop seen (input :: rest) = do
      let selector ← check input
      Results.rejectIf (seen.contains selector = true) .duplicateSelector
      let later ← loop (selector :: seen) rest
      return selector :: later)
    (inputs : List ρ) (selectors : List ValidatedSelector) :
    loop [] inputs = .ok selectors ↔
      List.Forall₂ (fun input selector => check input = .ok selector) inputs selectors ∧
        selectors.Pairwise fun earlier later => ¬ later.sameSelector earlier = true := by
  have accepted := Results.fresh_loop_ok_iff id
    (fun later earlier : ValidatedSelector => later.sameSelector earlier = true)
    (fun input selector => check input = .ok selector) loop
    (fun seen outputs => by simp [done, eq_comm]) ?_ [] inputs selectors
  · simp only [accepted]
    simp
  · intro seen input rest outputs
    simp only [step, Results.bind_ok_iff, Results.reject_if_ok_iff, exists_const,
      Results.pure_ok_iff, not_contains_iff, id]
    constructor
    · rintro ⟨selector, valid, new, later, validated, rfl⟩
      exact ⟨selector, later, valid, new, validated, rfl⟩
    · rintro ⟨selector, later, valid, new, validated, rfl⟩
      exact ⟨selector, valid, new, later, validated, rfl⟩

/-- A list is validated item by item, and the results are pairwise distinct as kinds and values,
not as texts. -/
theorem validate_selectors_ok_iff (raw : Option (List RawSelector))
    (selectors : List ValidatedSelector) :
    validateSelectors raw = .ok selectors ↔
      (raw.getD []).length ≤ maxSelectorsPerScope ∧
        List.Forall₂ (fun input selector => validateSelector input = .ok selector) (raw.getD [])
          selectors ∧
        selectors.Pairwise fun earlier later => ¬ later.sameSelector earlier = true := by
  simp only [validateSelectors, Results.bind_ok_iff, ensure_collection_limit_ok_iff, exists_const]
  exact and_congr_right fun _ => unique_selectors_ok_iff validateSelector validateSelectorsFrom
    (fun _ => rfl) (fun _ _ _ => rfl) _ _

/-- A scope is validated list by list. Its shape is checked last, by the constructor. -/
theorem validate_scope_ok_iff (scopeName : String) (raw : RawScope) (scope : ValidatedScope) :
    validateScope scopeName raw = .ok scope ↔
      scope.all = raw.all ∧ validateSelectors raw.allow = .ok scope.allow ∧
        validateSelectors raw.deny = .ok scope.deny := by
  simp only [validateScope, Results.bind_ok_iff, scope_new_ok_iff]
  constructor
  · rintro ⟨allow, allowed, deny, denied, isAll, rfl, rfl⟩
    exact ⟨isAll, allowed, denied⟩
  · rintro ⟨isAll, allowed, denied⟩
    exact ⟨_, allowed, _, denied, isAll, rfl, rfl⟩

/-- An audience entry is validated part by part. -/
structure AudienceEntryFrom (mapping : Text.CaseMapping) (scopeName : String)
    (raw : RawAudienceEntry) (entry : ValidatedAudienceEntry) : Prop where
  authority : AuthorityId.new mapping raw.authorityId = .ok entry.authorityId
  scope : validateScope scopeName raw.scope = .ok entry.scope
  principalScope : raw.principalScope.mapM (validateScope scopeName) = .ok entry.principalScope

/-- An audience is validated entry by entry, and no authority occurs twice. In the loop the
authority is compared with the earlier ones before its scopes are read, which decides about the
error and not about the outcome. -/
theorem validate_audience_entries_ok_iff (mapping : Text.CaseMapping) (scopeName : String)
    (raw : Option (List RawAudienceEntry)) (entries : List ValidatedAudienceEntry) :
    validateAudienceEntries mapping scopeName raw = .ok entries ↔
      (raw.getD []).length ≤ maxAudienceEntries ∧
        List.Forall₂ (AudienceEntryFrom mapping scopeName) (raw.getD []) entries ∧
        entries.Pairwise fun earlier later => ¬ later.authorityId = earlier.authorityId := by
  have loop := Results.fresh_loop_ok_iff ValidatedAudienceEntry.authorityId
    (fun later earlier : AuthorityId => later = earlier) (AudienceEntryFrom mapping scopeName)
    (validateAudienceEntriesFrom mapping scopeName)
    (fun seen outputs => by simp [validateAudienceEntriesFrom, eq_comm]) ?_ [] (raw.getD []) entries
  · simp only [validateAudienceEntries, Results.bind_ok_iff, ensure_collection_limit_ok_iff,
      exists_const, loop]
    simp
  · intro seen input rest outputs
    have fresh : ∀ authority : AuthorityId, ¬ authority ∈ seen ↔
        ∀ earlier ∈ seen, ¬ authority = earlier := by
      intro authority
      exact ⟨fun new earlier member same => new (same ▸ member),
        fun different member => different authority member rfl⟩
    simp only [validateAudienceEntriesFrom, Results.bind_ok_iff, Results.reject_if_ok_iff,
      exists_const, Results.pure_ok_iff, fresh]
    constructor
    · rintro ⟨authority, named, new, scope, ranged, principal, bounded, later, validated, rfl⟩
      exact ⟨⟨authority, scope, principal⟩, later, ⟨named, ranged, bounded⟩, new, validated, rfl⟩
    · rintro ⟨entry, later, made, new, validated, rfl⟩
      exact ⟨_, made.authority, new, _, made.scope, _, made.principalScope, later, validated, rfl⟩

/-- Names of operations are read one by one within the limit on their number. -/
theorem normalize_operation_names_ok_iff (values : Option (List String))
    (names : List OperationName) :
    normalizeNonEmptyOperationNames values = .ok names ↔
      (values.getD []).length ≤ maxOperationsPerScope ∧
        (values.getD []).mapM OperationName.new = .ok names := by
  simp only [normalizeNonEmptyOperationNames, Results.bind_ok_iff, ensure_collection_limit_ok_iff,
    exists_const]

/-- A scope of operations is validated list by list. That something is allowed and nothing is
listed twice is checked last, by the constructor. -/
theorem validate_operation_scope_ok_iff (raw : RawOperationScope)
    (scope : ValidatedOperationScope) :
    validateOperationScope raw = .ok scope ↔
      normalizeNonEmptyOperationNames raw.allow = .ok scope.allow ∧
        normalizeNonEmptyOperationNames raw.deny = .ok scope.deny := by
  simp only [validateOperationScope, Results.bind_ok_iff, operation_scope_new_ok_iff]
  constructor
  · rintro ⟨allow, allowed, deny, denied, rfl, rfl⟩
    exact ⟨allowed, denied⟩
  · rintro ⟨allowed, denied⟩
    exact ⟨_, allowed, _, denied, rfl, rfl⟩

/-- A resource type is validated part by part. Each field says of which wire field a validated
part is made. -/
structure ResourceTypeFrom (mapping : Text.CaseMapping) (raw : RawResourceType)
    (resourceType : ValidatedResourceType) : Prop where
  all : resourceType.all = raw.all
  allow : validateSelectors raw.allow = .ok resourceType.allow
  deny : validateSelectors raw.deny = .ok resourceType.deny
  capabilities : resourceType.capabilities = validateTypeCapabilities raw.capabilities
  minting : resourceType.constraints.minting = validateMintingConstraints raw.constraints.minting
  audience : validateAudienceEntries mapping "resource_scope.audience_scope"
    raw.constraints.audienceScope = .ok resourceType.constraints.audienceScope
  operations : raw.operations.mapM validateOperationScope = .ok resourceType.operations

/-- A resource type is validated part by part. The parts are named fields, so that later proofs
ask for one without going through the others. -/
theorem validate_resource_type_ok_iff (mapping : Text.CaseMapping) (raw : RawResourceType)
    (resourceType : ValidatedResourceType) :
    validateResourceType mapping raw = .ok resourceType ↔
      ResourceTypeFrom mapping raw resourceType := by
  simp only [validateResourceType, validateTypeConstraints, Results.bind_ok_iff,
    resource_type_new_ok_iff, Results.pure_ok_iff]
  constructor
  · rintro ⟨allow, allowed, deny, denied, constraints, ⟨audience, named, made⟩, operations, listed,
      isAll, rfl, rfl, capabilities, rfl, rfl⟩
    exact ⟨isAll, allowed, denied, capabilities, by rw [← made], by rw [← made]; exact named,
      listed⟩
  · intro made
    exact ⟨_, made.allow, _, made.deny, resourceType.constraints,
      ⟨_, made.audience, by rw [← made.minting]⟩, _, made.operations, made.all, rfl, rfl,
      made.capabilities, rfl, rfl⟩

/-- Types are validated one by one and collected under their normalized names, the last of a name
being kept. -/
theorem validate_resource_scope_ok_iff (mapping : Text.CaseMapping) (raw : RawResourceScope)
    (types : SortedMap ResourceTypeName ValidatedResourceType) :
    validateResourceScope mapping raw = .ok types ↔
      raw.types.len ≤ maxResourceTypes ∧
        ∃ entries, List.Forall₂ (fun input output =>
            ResourceTypeName.new input.1.asStr = .ok output.1 ∧
              ResourceTypeFrom mapping input.2 output.2) raw.types.entries entries ∧
          .ofEntries entries = types := by
  have typeMade : ∀ (input : Utf16Key × RawResourceType)
      (output : ResourceTypeName × ValidatedResourceType),
      (∃ name, ResourceTypeName.new input.1.asStr = .ok name ∧ ∃ resourceType,
          validateResourceType mapping input.2 = .ok resourceType ∧
          (name, resourceType) = output) ↔
        ResourceTypeName.new input.1.asStr = .ok output.1 ∧
          ResourceTypeFrom mapping input.2 output.2 := by
    intro input output
    simp only [validate_resource_type_ok_iff]
    constructor
    · rintro ⟨name, named, resourceType, made, rfl⟩
      exact ⟨named, made⟩
    · rintro ⟨named, made⟩
      exact ⟨_, named, _, made, rfl⟩
  simp only [validateResourceScope, Results.bind_ok_iff, ensure_collection_limit_ok_iff,
    exists_const, Results.pure_ok_iff, Results.map_list_ok_iff, typeMade]

end TrustGrant
