import TrustGrant.Document.Raw
import TrustGrant.Domain.Authority
import TrustGrant.Domain.Lineage
import TrustGrant.Domain.SelectorExpression

/-!
# Validated documents

The validated types carry the shape their constructors check: a selector or a scope
either matches everything or lists something, an operation scope lists each operation
once, a time window is not inverted. Validation turns a wire document into these types
or returns the first problem in the order in which the source looks for them.
-/

namespace TrustGrant

open Rust Limits Library

/-- A selector: a kind with everything, or with values and expressions. That it is one of the two
is a field of the type. -/
structure ValidatedSelector where
  kind : SelectorKind
  all : Bool
  values : List String
  expressions : List SelectorExpression
  shape : all = true ↔ values = [] ∧ expressions = []

/-- Derived equality: kinds are compared as kinds, not by spelling. Values and expressions are
compared as lists. -/
def ValidatedSelector.sameSelector (left right : ValidatedSelector) : Bool :=
  left.kind == right.kind && left.all == right.all && left.values == right.values &&
    left.expressions == right.expressions

/-- Lists of selectors are searched by the derived equality, so a selector that is spelled
otherwise may be a duplicate. -/
instance : BEq ValidatedSelector := ⟨ValidatedSelector.sameSelector⟩

/-- A scope: everything, or what its allow list selects, less its deny list. Exactly one of the
flag and the allow list is there. -/
structure ValidatedScope where
  all : Bool
  allow : List ValidatedSelector
  deny : List ValidatedSelector
  shape : all = true ↔ allow = []

/-- The operations a grant names for a resource type. Something is allowed, and no name occurs
twice in a list. -/
structure ValidatedOperationScope where
  allow : List OperationName
  deny : List OperationName
  present : allow ≠ []
  allowDistinct : allow.Nodup
  denyDistinct : deny.Nodup

/-- What one audience authority and its principals may do. Without a scope of principals every
principal of the authority may. -/
structure ValidatedAudienceEntry where
  authorityId : AuthorityId
  scope : ValidatedScope
  principalScope : Option ValidatedScope

/-- What a grant allows in general. -/
structure ValidatedCapabilities where
  recognize : Bool
  mint : Bool
deriving DecidableEq

/-- What a resource type sets for itself; an absent capability is that of the grant. A type may
take away what the grant gives and the other way round. -/
structure ValidatedTypeCapabilities where
  recognize : Option Bool
  mint : Option Bool
deriving DecidableEq

/-- How many items of a type may be minted in all and by each principal. An absent limit is
none. -/
structure ValidatedMintingConstraints where
  maxTotal : Option UInt64
  maxPerUser : Option UInt64
deriving DecidableEq

/-- The limits of a type and its audience, which takes the place of the default one when it lists
anyone. -/
structure ValidatedTypeConstraints where
  minting : ValidatedMintingConstraints
  audienceScope : List ValidatedAudienceEntry

/-- What a grant says about one resource type. The scope, the capabilities, the constraints and
the operations are all that an evaluation reads of it. -/
structure ValidatedResourceType where
  all : Bool
  allow : List ValidatedSelector
  deny : List ValidatedSelector
  capabilities : ValidatedTypeCapabilities
  constraints : ValidatedTypeConstraints
  operations : Option ValidatedOperationScope
  shape : all = true ↔ allow = []

/-- A time window that is not inverted. The constructor refuses other ones, and so does the
type. -/
structure ValidatedTimeWindow where
  notBefore : DateTime
  notAfter : DateTime
  ordered : notBefore ≤ notAfter

/-- A window is determined by its two ends. -/
instance : DecidableEq ValidatedTimeWindow := fun left right =>
  decidable_of_iff (left.notBefore = right.notBefore ∧ left.notAfter = right.notAfter) <| by
    cases left
    cases right
    simp

/-- Whether a grant can be revoked, where its status is served and what a revocation blocks.
Nothing in it is checked beyond its reading. -/
structure ValidatedRevocation where
  revocable : Bool
  revocationEndpoint : String
  postRevocationEffect : PostRevocationEffect
deriving DecidableEq

/-- The principal that issued a grant on behalf of its authority. Kind and identifier are names
within their limits. -/
structure ValidatedPrincipal where
  kind : PrincipalKind
  id : PrincipalId
deriving DecidableEq

/-- A validated document. It still carries the signature, which the normalized document of a
verified grant does not. -/
structure ValidatedTrustGrantDocument where
  lineage : GrantLineage
  issuerAuthority : AuthorityId
  ownershipAuthorityState : OwnershipAuthorityState
  keyId : KeyId
  targetScope : ValidatedScope
  capabilities : ValidatedCapabilities
  defaultAudienceScope : List ValidatedAudienceEntry
  resourceScope : SortedMap ResourceTypeName ValidatedResourceType
  globalTimeWindow : Option ValidatedTimeWindow
  revocation : Option ValidatedRevocation
  issuedAt : DateTime
  signature : String
  issuerPrincipal : Option ValidatedPrincipal
  interoperabilityProfile : Option InteroperabilityProfile

/-- Trim a value, reject it when nothing remains and bound its length if asked to. The length is
that of what remains. -/
def normalizeNonEmptyString (fieldName value : String) (maxBytes : Option Nat) :
    Except TrustGrantError String := do
  let trimmed ← normalizeNonEmpty fieldName value
  match maxBytes with
  | some maxBytes =>
    ensureStringLimit fieldName trimmed maxBytes
    return trimmed
  | none => return trimmed

/-- Normalize every value and keep the first of equal ones. The comparison is made after
trimming. -/
def normalizeNonEmptyStrings (values : Option (List String)) :
    Except TrustGrantError (List String) := do
  let values := values.getD []
  ensureCollectionLimit "selector.values" values.length maxSelectorValuesPerSelector
  let normalized ← values.mapM fun value =>
    normalizeNonEmptyString "selector.value" value (some maxSelectorValueBytes)
  return normalized.eraseDups

/-- Trim and parse every expression; unlike values, equal ones are kept. -/
def validateSelectorExpressions (expressions : Option (List String)) :
    Except TrustGrantError (List SelectorExpression) := do
  let expressions := expressions.getD []
  ensureCollectionLimit "selector.expression" expressions.length
    maxSelectorExpressionsPerSelector
  expressions.mapM fun expression => do
    let expression ← normalizeNonEmptyString "selector.expression" expression
      (some maxSelectorExpressionBytes)
    SelectorExpression.parse expression

/-- `ValidatedSelector::new`: everything and a list exclude each other. One of them has to be
there. -/
def ValidatedSelector.new (kind : SelectorKind) (all : Bool) (values : List String)
    (expressions : List SelectorExpression) : Except TrustGrantError ValidatedSelector :=
  if shape : all = true ↔ values = [] ∧ expressions = [] then
    .ok ⟨kind, all, values, expressions, shape⟩
  else .error .invalidSelectorShape

/-- The kind first, then the values and the expressions, then their shape. -/
def validateSelector (raw : RawSelector) : Except TrustGrantError ValidatedSelector := do
  let kind ← SelectorKind.new raw.kind
  let values ← normalizeNonEmptyStrings raw.values
  let expressions ← validateSelectorExpressions raw.expressions
  ValidatedSelector.new kind raw.all values expressions

/-- Validate selectors one by one; each must differ from the ones seen before it. The selectors
seen are an argument, so that the loop is a recursion. -/
def validateSelectorsFrom (seen : List ValidatedSelector) :
    List RawSelector → Except TrustGrantError (List ValidatedSelector)
  | [] => .ok []
  | raw :: rest => do
    let selector ← validateSelector raw
    Results.rejectIf (seen.contains selector = true) .duplicateSelector
    let later ← validateSelectorsFrom (selector :: seen) rest
    return selector :: later

/-- An absent list is empty. Its length is checked before any selector is. -/
def validateSelectors (raw : Option (List RawSelector)) :
    Except TrustGrantError (List ValidatedSelector) := do
  let selectors := raw.getD []
  ensureCollectionLimit "scope.selectors" selectors.length maxSelectorsPerScope
  validateSelectorsFrom [] selectors

/-- `ValidatedScope::new`. The error carries the name of the scope that is wrong. -/
def ValidatedScope.new (scopeName : String) (all : Bool) (allow deny : List ValidatedSelector) :
    Except TrustGrantError ValidatedScope :=
  if shape : all = true ↔ allow = [] then .ok ⟨all, allow, deny, shape⟩
  else .error (.invalidScopeShape scopeName)

/-- Both lists, then the shape of the scope, which is reported under the name of the field. -/
def validateScope (scopeName : String) (raw : RawScope) :
    Except TrustGrantError ValidatedScope := do
  let allow ← validateSelectors raw.allow
  let deny ← validateSelectors raw.deny
  ValidatedScope.new scopeName raw.all allow deny

/-- Validate audience entries one by one; each names an authority not seen before it. The
authority is compared before the scopes of the entry are read. -/
def validateAudienceEntriesFrom (mapping : Text.CaseMapping) (scopeName : String)
    (seenAuthorities : List AuthorityId) :
    List RawAudienceEntry → Except TrustGrantError (List ValidatedAudienceEntry)
  | [] => .ok []
  | entry :: rest => do
    let authorityId ← AuthorityId.new mapping entry.authorityId
    Results.rejectIf (authorityId ∈ seenAuthorities) .duplicateAudienceAuthority
    let scope ← validateScope scopeName entry.scope
    let principalScope ← entry.principalScope.mapM (validateScope scopeName)
    let later ← validateAudienceEntriesFrom mapping scopeName (authorityId :: seenAuthorities) rest
    return ⟨authorityId, scope, principalScope⟩ :: later

/-- An absent audience is empty. The number of entries is checked before any of them. -/
def validateAudienceEntries (mapping : Text.CaseMapping) (scopeName : String)
    (raw : Option (List RawAudienceEntry)) :
    Except TrustGrantError (List ValidatedAudienceEntry) := do
  let entries := raw.getD []
  ensureCollectionLimit scopeName entries.length maxAudienceEntries
  validateAudienceEntriesFrom mapping scopeName [] entries

/-- Read every name of a list of operations. Equal names are found later, after both lists have
been read. -/
def normalizeNonEmptyOperationNames (values : Option (List String)) :
    Except TrustGrantError (List OperationName) := do
  let values := values.getD []
  ensureCollectionLimit "operations" values.length maxOperationsPerScope
  values.mapM OperationName.new

/-- `ValidatedOperationScope::new`. An empty allow list is one error, a repeated name in either
list another. -/
def ValidatedOperationScope.new (allow deny : List OperationName) :
    Except TrustGrantError ValidatedOperationScope :=
  if present : allow ≠ [] then
    if allowDistinct : allow.Nodup then
      if denyDistinct : deny.Nodup then .ok ⟨allow, deny, present, allowDistinct, denyDistinct⟩
      else .error .duplicateOperationName
    else .error .duplicateOperationName
  else .error (.invalidScopeShape "operations")

/-- Both lists, then that something is allowed and no name occurs twice in either. -/
def validateOperationScope (raw : RawOperationScope) :
    Except TrustGrantError ValidatedOperationScope := do
  let allow ← normalizeNonEmptyOperationNames raw.allow
  let deny ← normalizeNonEmptyOperationNames raw.deny
  ValidatedOperationScope.new allow deny

/-- The capabilities of a type are taken as they are. -/
def validateTypeCapabilities (raw : RawTypeCapabilities) : ValidatedTypeCapabilities :=
  ⟨raw.recognize, raw.mint⟩

/-- The limits of a type are taken as they are. A limit of zero is one. -/
def validateMintingConstraints (raw : RawMintingConstraints) : ValidatedMintingConstraints :=
  ⟨raw.maxTotal, raw.maxPerUser⟩

/-- Only the audience of a type has anything to check. The limits are taken as they are. -/
def validateTypeConstraints (mapping : Text.CaseMapping) (raw : RawTypeConstraints) :
    Except TrustGrantError ValidatedTypeConstraints := do
  let audienceScope ← validateAudienceEntries mapping "resource_scope.audience_scope"
    raw.audienceScope
  return ⟨validateMintingConstraints raw.minting, audienceScope⟩

/-- `ValidatedResourceType::new`. The flag and the allow list exclude each other, as in a
scope. -/
def ValidatedResourceType.new (all : Bool) (allow deny : List ValidatedSelector)
    (capabilities : ValidatedTypeCapabilities) (constraints : ValidatedTypeConstraints)
    (operations : Option ValidatedOperationScope) :
    Except TrustGrantError ValidatedResourceType :=
  if shape : all = true ↔ allow = [] then
    .ok ⟨all, allow, deny, capabilities, constraints, operations, shape⟩
  else .error (.invalidScopeShape "resource_scope.types")

/-- The lists of the scope, the constraints, the operations, then the shape. The order decides
which problem is reported. -/
def validateResourceType (mapping : Text.CaseMapping) (raw : RawResourceType) :
    Except TrustGrantError ValidatedResourceType := do
  let allow ← validateSelectors raw.allow
  let deny ← validateSelectors raw.deny
  let constraints ← validateTypeConstraints mapping raw.constraints
  let operations ← raw.operations.mapM validateOperationScope
  ValidatedResourceType.new raw.all allow deny (validateTypeCapabilities raw.capabilities)
    constraints operations

/-- Validate every named type and collect them; a later entry replaces an earlier one
whose normalized name is the same. -/
def validateResourceScope (mapping : Text.CaseMapping) (raw : RawResourceScope) :
    Except TrustGrantError (SortedMap ResourceTypeName ValidatedResourceType) := do
  ensureCollectionLimit "resource_scope.types" raw.types.len maxResourceTypes
  let types ← raw.types.entries.mapM fun entry => do
    let name ← ResourceTypeName.new entry.1.asStr
    let resourceType ← validateResourceType mapping entry.2
    return (name, resourceType)
  return .ofEntries types

/-- `ValidatedTimeWindow::new`. Equal ends are in order. -/
def ValidatedTimeWindow.new (notBefore notAfter : DateTime) :
    Except TrustGrantError ValidatedTimeWindow :=
  if ordered : notBefore ≤ notAfter then .ok ⟨notBefore, notAfter, ordered⟩
  else .error .invalidTimeWindow

/-- The window of the constraints, which may be missing on two levels. -/
def validateGlobalConstraints (raw : Option RawGlobalConstraints) :
    Except TrustGrantError (Option ValidatedTimeWindow) :=
  (raw.bind RawGlobalConstraints.time).mapM fun time =>
    ValidatedTimeWindow.new time.notBefore time.notAfter

/-- A revocation policy is taken as it is. The endpoint is kept as a text. -/
def ValidatedRevocation.fromRaw (raw : RawRevocation) : ValidatedRevocation :=
  ⟨raw.revocable, raw.revocationEndpoint, raw.postRevocationEffect⟩

/-- The capabilities of a grant are taken as they are. -/
def ValidatedCapabilities.fromRaw (raw : RawCapabilities) : ValidatedCapabilities :=
  ⟨raw.recognize, raw.mint⟩

/-- A principal is read from its two texts, the kind first. -/
def ValidatedPrincipal.tryFrom (raw : RawPrincipal) :
    Except TrustGrantError ValidatedPrincipal := do
  let kind ← PrincipalKind.new raw.kind
  let id ← PrincipalId.new raw.id
  return ⟨kind, id⟩

/-- The policy named on the wire. The third policy of the domain has no name there. -/
def RawSupersessionPolicy.validated : RawSupersessionPolicy → SupersessionPolicy
  | .coexist => .coexist
  | .supersedePrevious => .supersedePrevious

/-- Validate a wire document. The steps are those of the source, in its order, and each of them
is a validator with rules of its own. -/
def ValidatedTrustGrantDocument.tryFrom (mapping : Text.CaseMapping)
    (raw : RawTrustGrantDocument) : Except TrustGrantError ValidatedTrustGrantDocument := do
  Results.rejectIf (raw.version ≠ 0) (.invalidProtocolVersion raw.version)
  let trustgrantId ← TrustGrantId.fromStr raw.trustgrantId
  let grantSeriesId ← GrantSeriesId.fromStr raw.grantSeriesId
  let revision ← GrantRevision.new raw.revision
  let supersedes ← raw.supersedes.mapM TrustGrantId.fromStr
  Results.rejectIf (revision.get = 1 ∧ supersedes.isSome) .invalidSupersedesForFirstRevision
  Results.rejectIf (supersedes = some trustgrantId) .selfSupersession
  let issuerAuthority ← AuthorityId.new mapping raw.issuerAuthority
  let originAuthority ← AuthorityId.new mapping raw.originAuthority
  let activeOwningAuthority ← AuthorityId.new mapping raw.activeOwningAuthority
  let keyId ← KeyId.new raw.keyId
  let signature ← normalizeNonEmptyString "signature" raw.signature none
  let targetScope ← validateScope "target_scope" raw.targetScope
  let defaultAudienceScope ← validateAudienceEntries mapping "default_audience_scope"
    raw.defaultAudienceScope
  let resourceScope ← validateResourceScope mapping raw.resourceScope
  let globalTimeWindow ← validateGlobalConstraints raw.globalConstraints
  let issuerPrincipal ← raw.issuerPrincipal.mapM ValidatedPrincipal.tryFrom
  return {
    lineage := ⟨trustgrantId, grantSeriesId, revision, supersedes,
      raw.supersessionPolicy.validated⟩
    issuerAuthority, keyId, targetScope, defaultAudienceScope, resourceScope, globalTimeWindow
    ownershipAuthorityState := ⟨originAuthority, activeOwningAuthority⟩
    capabilities := .fromRaw raw.capabilities
    revocation := raw.revocation.map .fromRaw
    issuedAt := raw.issuedAt
    signature, issuerPrincipal
    interoperabilityProfile := raw.interoperabilityProfile }

/-- Noon on 2026-04-07. -/
def smallInstant : DateTime := ⟨1775563200, 0, by decide, by decide, by decide⟩

/-- A selector of one authority. -/
def smallSelector (value : String) : RawSelector := ⟨"authority", false, some [value], none⟩

/-- A small document with one resource type, whose target scope, limit per user and
interoperability profile are left open. Closed instances of later results use it. -/
def smallDocument (targetScope : RawScope) (maxPerUser : Option UInt64)
    (interoperabilityProfile : Option InteroperabilityProfile) : RawTrustGrantDocument where
  trustgrantId := "tg_123e4567-e89b-12d3-a456-426614174000"
  version := 0
  grantSeriesId := "tgs_123e4567-e89b-12d3-a456-426614174001"
  revision := 1
  supersedes := none
  supersessionPolicy := .coexist
  issuerAuthority := "did:i"
  originAuthority := "did:i"
  activeOwningAuthority := "did:i"
  keyId := "k"
  targetScope
  capabilities := ⟨true, true⟩
  defaultAudienceScope := none
  resourceScope := ⟨⟨[(⟨"item"⟩, {
    all := true
    allow := none
    deny := none
    capabilities := ⟨none, none⟩
    constraints := ⟨⟨none, maxPerUser⟩, none⟩
    operations := some ⟨some ["create", "recognize"], none⟩ })], List.pairwise_singleton _ _⟩⟩
  globalConstraints := none
  revocation := none
  issuedAt := smallInstant
  signature := "s"
  issuerPrincipal := none
  interoperabilityProfile

/-- A small document about one item. Its resources come from the authority did:i and are
owned by the authority did:j, which issues it. -/
def smallTransferred : RawTrustGrantDocument :=
  { smallDocument ⟨true, none, none⟩ none none with
    issuerAuthority := "did:j"
    activeOwningAuthority := "did:j"
    resourceScope := ⟨⟨[(⟨"item"⟩, {
      all := false
      allow := some [⟨"id", false, some ["a"], none⟩]
      deny := none
      capabilities := ⟨none, none⟩
      constraints := ⟨⟨none, none⟩, none⟩
      operations := some ⟨some ["recognize"], none⟩ })], List.pairwise_singleton _ _⟩⟩ }

/-- The same document after the item was handed on to the authority did:h. -/
def smallHandedOn : RawTrustGrantDocument :=
  { smallTransferred with
    issuerAuthority := "did:h"
    activeOwningAuthority := "did:h" }

end TrustGrant
