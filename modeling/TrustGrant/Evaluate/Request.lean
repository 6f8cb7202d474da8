import TrustGrant.Domain.Authority
import TrustGrant.Rust.DateTime
import TrustGrant.Evaluate.StableKey

/-!
# Evaluation requests

A request names an operation, the resource or template it acts on, the authorities
involved and three selector contexts. Construction enters the target and the audience
authority into their contexts and later calls only add selectors, so the type keeps the
fact that each authority is listed in its context.
-/

namespace TrustGrant

open Rust Limits Library

/-- The two built-in operations, which the capabilities of a grant and of a type speak about. -/
inductive RequestedCapability where
  | recognize
  | mint
deriving DecidableEq

/-- What a request asks for. A custom operation is one that the operation scope of the type
names. -/
inductive RequestedOperation where
  | capability (requested : RequestedCapability)
  | custom (name : CustomOperationName)
deriving DecidableEq

/-- A reference to an existing resource. Type and version are optional, since evaluation needs
neither of them. -/
structure ResourceRef where
  originAuthority : AuthorityId
  resourceType : Option ResourceTypeName
  resourceId : String
  expectedVersion : Option UInt64
deriving DecidableEq

namespace ResourceRef

/-- A reference without a type. -/
def new (originAuthority : AuthorityId) (resourceId : String) : ResourceRef :=
  ⟨originAuthority, none, resourceId, none⟩

/-- A reference with its type, as state-changing requests need it. -/
def newTyped (originAuthority : AuthorityId) (resourceType resourceId : String) :
    Except TrustGrantError ResourceRef := do
  let resourceType ← ResourceTypeName.new resourceType
  let resourceId ← normalizeContextValue "resource_ref.resource_id" resourceId
  return ⟨originAuthority, some resourceType, resourceId, none⟩

/-- The version of the resource that a state-changing request was prepared against. -/
def withExpectedVersion (resource : ResourceRef) (version : UInt64) : ResourceRef :=
  { resource with expectedVersion := some version }

end ResourceRef

/-- A reference to a mint template. Its identifier is optional, since evaluation does not need
it. -/
structure TemplateRef where
  originAuthority : AuthorityId
  templateId : Option String
deriving DecidableEq

namespace TemplateRef

/-- A template without an identifier. -/
def new (originAuthority : AuthorityId) : TemplateRef := ⟨originAuthority, none⟩

/-- A template with its identifier, as state-changing requests need it. -/
def newTyped (originAuthority : AuthorityId) (templateId : String) :
    Except TrustGrantError TemplateRef := do
  let templateId ← normalizeContextValue "template_ref.template_id" templateId
  return ⟨originAuthority, some templateId⟩

end TemplateRef

/-- What a request acts on: an existing resource, or a template to mint from. -/
inductive ResourceBinding where
  | existing (resource : ResourceRef)
  | mint (template : TemplateRef)
deriving DecidableEq

/-- The authority from which the resource or the template originates. -/
def ResourceBinding.originAuthority : ResourceBinding → AuthorityId
  | .existing resource => resource.originAuthority
  | .mint template => template.originAuthority

/-- The counters a mint is checked against and the quantity it asks for. The quantity is
positive, which the constructor makes sure of. -/
@[ext] structure MintContext where
  currentTotalMints : UInt64
  currentMintsForAudience : UInt64
  requestedQuantity : UInt64
  positive : requestedQuantity ≠ 0

namespace MintContext

/-- A mint context is determined by its three numbers; that the quantity is positive is a
proof. -/
instance : DecidableEq MintContext := fun _ _ => decidable_of_iff' _ MintContext.ext_iff

/-- Counters for a mint of one item. -/
def new (currentTotalMints currentMintsForAudience : UInt64) : MintContext :=
  ⟨currentTotalMints, currentMintsForAudience, 1, by decide⟩

/-- The quantity of a mint. Zero is refused with an error of its own. -/
def withQuantity (context : MintContext) (quantity : UInt64) :
    Except TrustGrantError MintContext :=
  if zero : quantity = 0 then .error .invalidMintQuantity
  else .ok { context with requestedQuantity := quantity, positive := zero }

/-- A positive quantity is always accepted and changes nothing else. -/
theorem with_quantity_positive (context : MintContext) (quantity : UInt64)
    (positive : quantity ≠ 0) :
    context.withQuantity quantity =
      .ok ⟨context.currentTotalMints, context.currentMintsForAudience, quantity, positive⟩ :=
  dif_neg positive

end MintContext

/-- The resource type and the selectors of the resource acted upon. The selectors are a context
like that of an authority. -/
structure ResourceContext where
  resourceType : ResourceTypeName
  selectors : SelectorContext

namespace ResourceContext

/-- A resource context of a type that lists nothing yet. -/
def new (resourceType : String) : Except TrustGrantError ResourceContext := do
  return ⟨← ResourceTypeName.new resourceType, .new⟩

/-- One more value of a kind. The limits of contexts apply to resources as well. -/
def insertSelector (resource : ResourceContext) (kind value : String) :
    Except TrustGrantError ResourceContext := do
  return { resource with selectors := ← resource.selectors.insert kind value }

/-- Derived equality. -/
instance : BEq ResourceContext :=
  ⟨fun left right => left.resourceType == right.resourceType && left.selectors == right.selectors⟩

end ResourceContext

/-- An identifier of one state-changing intent. -/
structure IntentId where
  value : String
  normalized : IsContextValue value

namespace IntentId

/-- Intents are identified by their text. -/
theorem value_injective : Function.Injective IntentId.value := by
  rintro ⟨left, _⟩ ⟨right, _⟩ same
  cases same
  rfl

/-- Intents are compared by their text after normalization. -/
instance : DecidableEq IntentId := fun left right =>
  decidable_of_iff (left.value = right.value) value_injective.eq_iff

/-- An intent from its text, which is trimmed and may be neither empty nor too long. -/
def new (value : String) : Except TrustGrantError IntentId :=
  match accepted : normalizeContextValue "intent_id" value with
  | .error problem => .error problem
  | .ok trimmed => .ok ⟨trimmed, ((normalize_context_value_ok_iff _ _ _).mp accepted).2⟩

end IntentId

/-- The built-in kind that lists authorities. -/
def SelectorKind.authority : SelectorKind where
  classification := .authority
  value := ⟨"authority", by decide, by decide, by decide⟩
  classified := by decide

/-- A request to be evaluated against a grant. Besides the fields of the source the type carries
that each authority is listed in its own context. -/
structure EvaluationRequest where
  operation : RequestedOperation
  resourceBinding : ResourceBinding
  intentId : Option IntentId
  targetAuthority : AuthorityId
  targetContext : SelectorContext
  audienceAuthority : AuthorityId
  audienceContext : SelectorContext
  audiencePrincipalContext : SelectorContext
  resource : ResourceContext
  mintContext : Option MintContext
  evaluatedAt : DateTime
  selectorsVerified : Bool
  targetListed : targetAuthority.value ∈ targetContext.valueSet .authority
  audienceListed : audienceAuthority.value ∈ audienceContext.valueSet .authority

namespace EvaluationRequest

/-- A context that lists one authority under both of its kinds. It fails when the identifier is
too long for a selector value. -/
def authorityContext (authority : AuthorityId) : Except TrustGrantError SelectorContext := do
  let context ← SelectorContext.new.insert "authority" authority.asStr
  context.insert "authority_id" authority.asStr

/-- What insertion leaves listed. -/
theorem listed_after_insert (context extended : SelectorContext) (kindName value : String)
    (inserted : context.insert kindName value = .ok extended) (asked : SelectorKind)
    (other : String) (listed : other ∈ context.valueSet asked) :
    other ∈ extended.valueSet asked := by
  obtain ⟨kind, -, -, exactSets⟩ := context.insert_value_set kindName value extended inserted
  exact (exactSets asked other).mpr (.inl listed)

/-- The authority is listed in the context made for it. -/
theorem authority_context_listed (authority : AuthorityId) (context : SelectorContext)
    (built : authorityContext authority = .ok context) :
    authority.value ∈ context.valueSet .authority := by
  obtain ⟨first, insertedFirst, insertedSecond⟩ := (Results.bind_ok_iff _ _ _).mp built
  apply listed_after_insert first context _ _ insertedSecond
  obtain ⟨kind, named, -, exactSets⟩ :=
    SelectorContext.new.insert_value_set _ _ first insertedFirst
  refine (exactSets .authority authority.value).mpr (.inr ⟨?_, ?_⟩)
  · have sameKind : kind.sameKind .authority = true := by
      have spelled : (SelectorKind.new "authority").toOption.map (·.sameKind .authority) =
          some true := by decide
      rw [named] at spelled
      exact Option.some.inj spelled
    exact sameKind
  · exact (Text.trim_token authority.value authority.token).symm

/-- Creates a request with the authorities entered into their contexts. -/
def new (operation : RequestedOperation) (resourceBinding : ResourceBinding)
    (targetAuthority audienceAuthority : AuthorityId) (resource : ResourceContext)
    (evaluatedAt : DateTime) : Except TrustGrantError EvaluationRequest :=
  match targetBuilt : authorityContext targetAuthority with
  | .error problem => .error problem
  | .ok targetContext =>
    match audienceBuilt : authorityContext audienceAuthority with
    | .error problem => .error problem
    | .ok audienceContext =>
      .ok {
        operation, resourceBinding, targetAuthority, targetContext, audienceAuthority
        audienceContext, resource, evaluatedAt
        intentId := none
        audiencePrincipalContext := .new
        mintContext := none
        selectorsVerified := false
        targetListed := authority_context_listed targetAuthority targetContext targetBuilt
        audienceListed := authority_context_listed audienceAuthority audienceContext audienceBuilt }

/-- Adds one target-scope selector. The authority stays listed, because an insertion takes
nothing away. -/
def insertTargetSelector (request : EvaluationRequest) (kind value : String) :
    Except TrustGrantError EvaluationRequest :=
  match inserted : request.targetContext.insert kind value with
  | .error problem => .error problem
  | .ok targetContext =>
    .ok { request with
      targetContext
      targetListed := listed_after_insert _ _ kind value inserted _ _ request.targetListed }

/-- Adds one audience-scope selector. The authority stays listed here as well. -/
def insertAudienceSelector (request : EvaluationRequest) (kind value : String) :
    Except TrustGrantError EvaluationRequest :=
  match inserted : request.audienceContext.insert kind value with
  | .error problem => .error problem
  | .ok audienceContext =>
    .ok { request with
      audienceContext
      audienceListed := listed_after_insert _ _ kind value inserted _ _ request.audienceListed }

/-- Adds one audience principal selector. -/
def insertAudiencePrincipalSelector (request : EvaluationRequest) (kind value : String) :
    Except TrustGrantError EvaluationRequest := do
  let audiencePrincipalContext ← request.audiencePrincipalContext.insert kind value
  return { request with audiencePrincipalContext }

/-- Declares that the caller checked the selectors against their source. A mint is only allowed
with this declaration. -/
def verifySelectors (request : EvaluationRequest) : EvaluationRequest :=
  { request with selectorsVerified := true }

/-- Enters the counters that the evaluation of a mint compares with its limits. -/
def withMintContext (request : EvaluationRequest) (mintContext : MintContext) :
    EvaluationRequest :=
  { request with mintContext := some mintContext }

/-- Names the intent under which a state-changing request is executed at most once. -/
def withIntentId (request : EvaluationRequest) (intentId : IntentId) : EvaluationRequest :=
  { request with intentId := some intentId }

/-- The origin that the evaluation compares with that of the grant. -/
def originAuthority (request : EvaluationRequest) : AuthorityId :=
  request.resourceBinding.originAuthority

/-- The comparison that tells a retry from another request under one intent. It compares the
contexts as they are stored and does not look at the quantity. -/
def sameMutationIntent (request other : EvaluationRequest) : Bool :=
  request.operation == other.operation && request.resourceBinding == other.resourceBinding &&
    request.targetAuthority == other.targetAuthority &&
    request.targetContext == other.targetContext &&
    request.audienceAuthority == other.audienceAuthority &&
    request.audienceContext == other.audienceContext &&
    request.audiencePrincipalContext == other.audiencePrincipalContext &&
    request.resource == other.resource

end EvaluationRequest

end TrustGrant
