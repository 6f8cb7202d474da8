import TrustGrant.Document.PublishedSchema
import TrustGrant.Library.Rfc3339
import TrustGrant.Rust.Admission
import TrustGrant.Verify.StrictParsing

/-!
# Which published documents parse

Every ownership transition that its published schema admits parses. A grant that its schema
admits parses exactly when it has no revocation policy or its policy names its effect: the
schema gives the effect a default, its type does not.

Each type of the wire documents has a lemma of its own: what its schema admits is read by
its reader and is plain. They are proved from the lists of members by one rule and put
together along the nesting of the types.
-/

namespace TrustGrant

open Rust Rust.Serde Library

/-- The grant has no revocation policy, or a policy that names its effect. -/
def NamesEffect (tree : JsonTree) : Prop :=
  ∀ revocation, tree.member "revocation" = some revocation →
    ∃ effect, revocation.member "post_revocation_effect" = some effect

/-- The revocation policy with the default of an effect that is left out. -/
def withDefaultEffect : JsonTree → JsonTree
  | .object members =>
    if (members.lookup "post_revocation_effect").isSome then .object members
    else .object (members ++ [("post_revocation_effect", .string "block_all")])
  | tree => tree

/-- The grant with the default of its policy. -/
def withDefaults : JsonTree → JsonTree
  | .object members => .object (members.map fun member =>
    if member.1 = "revocation" then (member.1, withDefaultEffect member.2) else member)
  | tree => tree

section Admitted

variable {isDateTime : String → Bool}

/-- A schema of string arrays agrees with the reader of string lists. -/
theorem strings_admitted {rest : List Schema} (listed : Schema.items .string ∈ rest) :
    Agrees isDateTime (.allOf (.type [.array] :: rest)) (readVec readString)
      (EveryItem Anything) :=
  vec_admitted string_admitted listed

/-- What the schema of selectors admits is read and plain. The keywords say of each member
whether it may be absent and how it is shaped, and the reader asks for no more. -/
theorem RawSelector.admitted :
    Agrees isDateTime PublishedSchema.selector RawSelector.fromTree RawSelector.Plain := by
  intro tree isValid
  rw [PublishedSchema.selector, Schema.valid_all_of, List.forall_mem_cons] at isValid
  obtain ⟨members, rfl, admitted⟩ :=
    admitted_of_valid RawSelector.shape isValid.1 (by decide)
  obtain ⟨kind, readKind, plainKind⟩ := admitted.required "kind" (by decide) rfl string_admitted
  obtain ⟨all, readAll, plainAll⟩ := admitted.required "all" (by decide) rfl bool_admitted
  obtain ⟨values, readValues, plainValues⟩ :=
    admitted.optional "values" rfl (strings_admitted (by simp)).nullable
  obtain ⟨expressions, readExpressions, plainExpressions⟩ :=
    admitted.optional "expressions" rfl (strings_admitted (by simp)).nullable
  refine ⟨admitted.shape_plain (.cons plainKind <| .cons plainAll <| .cons plainValues <|
    .cons plainExpressions .nil), ⟨kind, all, values, expressions⟩, ?_⟩
  exact read_next admitted.opened <| read_next readKind <| read_next readAll <|
    read_next readValues <| read_next readExpressions <| rfl

/-- What the schema of scopes admits is read and plain; its lists may be null. -/
theorem RawScope.admitted :
    Agrees isDateTime PublishedSchema.scope RawScope.fromTree RawScope.Plain := by
  intro tree isValid
  rw [PublishedSchema.scope, Schema.valid_all_of, List.forall_mem_cons] at isValid
  obtain ⟨members, rfl, admitted⟩ :=
    admitted_of_valid RawScope.shape isValid.1 (by decide)
  obtain ⟨all, readAll, plainAll⟩ := admitted.required "all" (by decide) rfl bool_admitted
  obtain ⟨allow, readAllow, plainAllow⟩ :=
    admitted.optional "allow" rfl (vec_admitted RawSelector.admitted (by simp)).nullable
  obtain ⟨deny, readDeny, plainDeny⟩ :=
    admitted.optional "deny" rfl (vec_admitted RawSelector.admitted (by simp)).nullable
  refine ⟨admitted.shape_plain (.cons plainAll <| .cons plainAllow <| .cons plainDeny .nil),
    ⟨all, allow, deny⟩, ?_⟩
  exact read_next admitted.opened <| read_next readAll <| read_next readAllow <|
    read_next readDeny <| rfl

/-- What the schema of principals admits is read and plain. Both members are required texts. -/
theorem RawPrincipal.admitted :
    Agrees isDateTime PublishedSchema.principal RawPrincipal.fromTree RawPrincipal.Plain := by
  intro tree isValid
  obtain ⟨members, rfl, admitted⟩ :=
    admitted_of_valid RawPrincipal.shape isValid (by decide)
  obtain ⟨kind, readKind, plainKind⟩ := admitted.required "kind" (by decide) rfl string_admitted
  obtain ⟨id, readId, plainId⟩ := admitted.required "id" (by decide) rfl string_admitted
  refine ⟨admitted.shape_plain (.cons plainKind <| .cons plainId .nil), ⟨kind, id⟩, ?_⟩
  exact read_next admitted.opened <| read_next readKind <| read_next readId <| rfl

/-- What the schema of capabilities admits is read and plain. The schema forbids other members,
which the reader would ignore. -/
theorem RawCapabilities.admitted :
    Agrees isDateTime PublishedSchema.capabilities
      RawCapabilities.fromTree RawCapabilities.Plain := by
  intro tree isValid
  obtain ⟨members, rfl, admitted⟩ :=
    admitted_of_valid RawCapabilities.shape isValid (by decide)
  obtain ⟨recognize, readRecognize, plainRecognize⟩ :=
    admitted.required "recognize" (by decide) rfl bool_admitted
  obtain ⟨mint, readMint, plainMint⟩ := admitted.required "mint" (by decide) rfl bool_admitted
  refine ⟨admitted.shape_plain (.cons plainRecognize <| .cons plainMint .nil),
    ⟨recognize, mint⟩, ?_⟩
  exact read_next admitted.opened <| read_next readRecognize <| read_next readMint <| rfl

/-- What the schema of audience entries admits is read and plain. -/
theorem RawAudienceEntry.admitted :
    Agrees isDateTime PublishedSchema.audienceEntry
      RawAudienceEntry.fromTree RawAudienceEntry.Plain := by
  intro tree isValid
  obtain ⟨members, rfl, admitted⟩ :=
    admitted_of_valid RawAudienceEntry.shape isValid (by decide)
  obtain ⟨authorityId, readAuthorityId, plainAuthorityId⟩ :=
    admitted.required "authority_id" (by decide) rfl string_admitted
  obtain ⟨scope, readScope, plainScope⟩ :=
    admitted.required "scope" (by decide) rfl RawScope.admitted
  obtain ⟨principalScope, readPrincipalScope, plainPrincipalScope⟩ :=
    admitted.optional "principal_scope" rfl RawScope.admitted.nullable
  refine ⟨admitted.shape_plain (.cons plainAuthorityId <| .cons plainScope <|
    .cons plainPrincipalScope .nil), ⟨authorityId, scope, principalScope⟩, ?_⟩
  exact read_next admitted.opened <| read_next readAuthorityId <| read_next readScope <|
    read_next readPrincipalScope <| rfl

/-- What the schema of type capabilities admits is read and plain. The schema denies unknown
members, which the reader would skip. -/
theorem RawTypeCapabilities.admitted :
    Agrees isDateTime PublishedSchema.typeCapabilities
      RawTypeCapabilities.fromTree RawTypeCapabilities.Plain := by
  intro tree isValid
  obtain ⟨members, rfl, admitted⟩ :=
    admitted_of_valid RawTypeCapabilities.shape isValid (by decide)
  obtain ⟨recognize, readRecognize, plainRecognize⟩ :=
    admitted.optional "recognize" rfl optional_bool_admitted
  obtain ⟨mint, readMint, plainMint⟩ := admitted.optional "mint" rfl optional_bool_admitted
  refine ⟨admitted.shape_plain (.cons plainRecognize <| .cons plainMint .nil),
    ⟨recognize, mint⟩, ?_⟩
  exact read_next admitted.opened <| read_next readRecognize <| read_next readMint <| rfl

/-- What the schema of minting limits admits is read and plain: it forbids other members, so no
limit is misspelled. -/
theorem RawMintingConstraints.admitted :
    Agrees isDateTime PublishedSchema.minting
      RawMintingConstraints.fromTree RawMintingConstraints.Plain := by
  intro tree isValid
  obtain ⟨members, rfl, admitted⟩ :=
    admitted_of_valid RawMintingConstraints.shape isValid (by decide)
  obtain ⟨maxTotal, readMaxTotal, plainMaxTotal⟩ :=
    admitted.optional "max_total" rfl optional_u64_admitted
  obtain ⟨maxPerUser, readMaxPerUser, plainMaxPerUser⟩ :=
    admitted.optional "max_per_user" rfl optional_u64_admitted
  refine ⟨admitted.shape_plain (.cons plainMaxTotal <| .cons plainMaxPerUser .nil),
    ⟨maxTotal, maxPerUser⟩, ?_⟩
  exact read_next admitted.opened <| read_next readMaxTotal <| read_next readMaxPerUser <| rfl

/-- What the schema of type constraints admits is read and plain. Limits and audience are
admitted by schemas of their own. -/
theorem RawTypeConstraints.admitted :
    Agrees isDateTime PublishedSchema.typeConstraints
      RawTypeConstraints.fromTree RawTypeConstraints.Plain := by
  intro tree isValid
  obtain ⟨members, rfl, admitted⟩ :=
    admitted_of_valid RawTypeConstraints.shape isValid (by decide)
  obtain ⟨minting, readMinting, plainMinting⟩ :=
    admitted.required "minting" (by decide) rfl RawMintingConstraints.admitted
  obtain ⟨audienceScope, readAudienceScope, plainAudienceScope⟩ :=
    admitted.optional "audience_scope" rfl
      (vec_admitted RawAudienceEntry.admitted (by simp)).nullable
  refine ⟨admitted.shape_plain (.cons plainMinting <| .cons plainAudienceScope .nil),
    ⟨minting, audienceScope⟩, ?_⟩
  exact read_next admitted.opened <| read_next readMinting <| read_next readAudienceScope <| rfl

/-- A schema of lists of names agrees with the reader of string lists. That it asks for one name
at least only narrows it. -/
theorem operations_admitted : Agrees isDateTime (.someList .someText) (readVec readString)
    (EveryItem Anything) :=
  vec_admitted string_admitted (List.mem_cons_of_mem _ List.mem_cons_self)

/-- What the schema of operation scopes admits is read and plain. Its lists may be absent and may
be null. -/
theorem RawOperationScope.admitted :
    Agrees isDateTime PublishedSchema.operationScope
      RawOperationScope.fromTree RawOperationScope.Plain := by
  intro tree isValid
  obtain ⟨members, rfl, admitted⟩ :=
    admitted_of_valid RawOperationScope.shape isValid (by decide)
  obtain ⟨allow, readAllow, plainAllow⟩ :=
    admitted.optional "allow" rfl operations_admitted.nullable
  obtain ⟨deny, readDeny, plainDeny⟩ := admitted.optional "deny" rfl operations_admitted.nullable
  refine ⟨admitted.shape_plain (.cons plainAllow <| .cons plainDeny .nil), ⟨allow, deny⟩, ?_⟩
  exact read_next admitted.opened <| read_next readAllow <| read_next readDeny <| rfl

/-- What the schema of resource types admits is read and plain. -/
theorem RawResourceType.admitted :
    Agrees isDateTime PublishedSchema.resourceType
      RawResourceType.fromTree RawResourceType.Plain := by
  intro tree isValid
  obtain ⟨members, rfl, admitted⟩ :=
    admitted_of_valid RawResourceType.shape isValid (by decide)
  obtain ⟨all, readAll, plainAll⟩ := admitted.required "all" (by decide) rfl bool_admitted
  obtain ⟨allow, readAllow, plainAllow⟩ :=
    admitted.optional "allow" rfl (vec_admitted RawSelector.admitted (by simp)).nullable
  obtain ⟨deny, readDeny, plainDeny⟩ :=
    admitted.optional "deny" rfl (vec_admitted RawSelector.admitted (by simp)).nullable
  obtain ⟨capabilities, readCapabilities, plainCapabilities⟩ :=
    admitted.required "capabilities" (by decide) rfl RawTypeCapabilities.admitted
  obtain ⟨constraints, readConstraints, plainConstraints⟩ :=
    admitted.required "constraints" (by decide) rfl RawTypeConstraints.admitted
  obtain ⟨operations, readOperations, plainOperations⟩ :=
    admitted.optional "operations" rfl RawOperationScope.admitted.nullable
  refine ⟨admitted.shape_plain (.cons plainAll <| .cons plainAllow <| .cons plainDeny <|
    .cons plainCapabilities <| .cons plainConstraints <| .cons plainOperations .nil),
    ⟨all, allow, deny, capabilities, constraints, operations⟩, ?_⟩
  exact read_next admitted.opened <| read_next readAll <| read_next readAllow <|
    read_next readDeny <| read_next readCapabilities <| read_next readConstraints <|
    read_next readOperations <| rfl

/-- What the schema of resource scopes admits is read and plain; no member of an object of the
schema is repeated. -/
theorem RawResourceScope.admitted :
    Agrees isDateTime PublishedSchema.resourceScope
      RawResourceScope.fromTree RawResourceScope.Plain := by
  intro tree isValid
  obtain ⟨members, rfl, admitted⟩ :=
    admitted_of_valid RawResourceScope.shape isValid (by decide)
  obtain ⟨types, readTypes, plainTypes⟩ :=
    admitted.required "types" (by decide) rfl (map_admitted Utf16Key.mk RawResourceType.admitted)
  refine ⟨admitted.shape_plain (.cons plainTypes .nil), ⟨types⟩, ?_⟩
  exact read_next admitted.opened <| read_next readTypes <| rfl

/-- What the schema of profiles admits is read and plain. The version is an integer that fits
into the counter. -/
theorem InteroperabilityProfile.admitted :
    Agrees isDateTime PublishedSchema.interoperabilityProfile
      InteroperabilityProfile.fromTree InteroperabilityProfile.Plain := by
  intro tree isValid
  obtain ⟨members, rfl, admitted⟩ :=
    admitted_of_valid InteroperabilityProfile.shape isValid (by decide)
  obtain ⟨name, readName, plainName⟩ := admitted.required "name" (by decide) rfl string_admitted
  obtain ⟨version, readVersion, plainVersion⟩ :=
    admitted.required "version" (by decide) rfl u64_admitted
  refine ⟨admitted.shape_plain (.cons plainName <| .cons plainVersion .nil), ⟨name, version⟩, ?_⟩
  exact read_next admitted.opened <| read_next readName <| read_next readVersion <| rfl

/-- The same for the selectors of a transition. -/
theorem RawOwnershipTransitionSelector.admitted :
    Agrees isDateTime TransitionSchema.transitionSelector
      RawOwnershipTransitionSelector.fromTree RawOwnershipTransitionSelector.Plain := by
  intro tree isValid
  obtain ⟨members, rfl, admitted⟩ :=
    admitted_of_valid RawOwnershipTransitionSelector.shape isValid (by decide)
  obtain ⟨kind, readKind, plainKind⟩ := admitted.required "kind" (by decide) rfl string_admitted
  obtain ⟨all, readAll, plainAll⟩ := admitted.required "all" (by decide) rfl bool_admitted
  obtain ⟨values, readValues, plainValues⟩ :=
    admitted.optional "values" rfl (strings_admitted (by simp)).option
  obtain ⟨expressions, readExpressions, plainExpressions⟩ :=
    admitted.optional "expressions" rfl (strings_admitted (by simp)).nullable
  refine ⟨admitted.shape_plain (.cons plainKind <| .cons plainAll <| .cons plainValues <|
    .cons plainExpressions .nil), ⟨kind, all, values, expressions⟩, ?_⟩
  exact read_next admitted.opened <| read_next readKind <| read_next readAll <|
    read_next readValues <| read_next readExpressions <| rfl

/-- The same for the resource types of a transition. -/
theorem RawOwnershipTransitionResourceType.admitted :
    Agrees isDateTime TransitionSchema.transitionResourceType
      RawOwnershipTransitionResourceType.fromTree RawOwnershipTransitionResourceType.Plain := by
  intro tree isValid
  obtain ⟨members, rfl, admitted⟩ :=
    admitted_of_valid RawOwnershipTransitionResourceType.shape isValid (by decide)
  obtain ⟨all, readAll, plainAll⟩ := admitted.required "all" (by decide) rfl bool_admitted
  obtain ⟨allow, readAllow, plainAllow⟩ :=
    admitted.optional "allow" rfl
      (vec_admitted RawOwnershipTransitionSelector.admitted (by simp)).option
  obtain ⟨deny, readDeny, plainDeny⟩ :=
    admitted.optional "deny" rfl (null_admitted (readVec RawOwnershipTransitionSelector.fromTree) _)
  refine ⟨admitted.shape_plain (.cons plainAll <| .cons plainAllow <| .cons plainDeny .nil),
    ⟨all, allow, deny⟩, ?_⟩
  exact read_next admitted.opened <| read_next readAll <| read_next readAllow <|
    read_next readDeny <| rfl

/-- The same for the scope of a transition. -/
theorem RawOwnershipTransitionResourceScope.admitted :
    Agrees isDateTime TransitionSchema.canonicalResourceScope
      RawOwnershipTransitionResourceScope.fromTree RawOwnershipTransitionResourceScope.Plain := by
  intro tree isValid
  obtain ⟨members, rfl, admitted⟩ :=
    admitted_of_valid RawOwnershipTransitionResourceScope.shape isValid (by decide)
  obtain ⟨types, readTypes, plainTypes⟩ :=
    admitted.required "types" (by decide) rfl
      (map_admitted Utf16Key.mk RawOwnershipTransitionResourceType.admitted)
  refine ⟨admitted.shape_plain (.cons plainTypes .nil), ⟨types⟩, ?_⟩
  exact read_next admitted.opened <| read_next readTypes <| rfl

/-- The same for the signature of the predecessor. -/
theorem RawOwnershipTransitionSignature.admitted :
    Agrees isDateTime TransitionSchema.signatureProof
      RawOwnershipTransitionSignature.fromTree RawOwnershipTransitionSignature.Plain := by
  intro tree isValid
  obtain ⟨members, rfl, admitted⟩ :=
    admitted_of_valid RawOwnershipTransitionSignature.shape isValid (by decide)
  obtain ⟨keyId, readKeyId, plainKeyId⟩ :=
    admitted.required "key_id" (by decide) rfl string_admitted
  obtain ⟨signature, readSignature, plainSignature⟩ :=
    admitted.required "signature" (by decide) rfl string_admitted
  refine ⟨admitted.shape_plain (.cons plainKeyId <| .cons plainSignature .nil),
    ⟨keyId, signature⟩, ?_⟩
  exact read_next admitted.opened <| read_next readKeyId <| read_next readSignature <| rfl

/-- The schema lists the names of the two wire policies. -/
theorem policy_admitted : Agrees isDateTime (.oneText ["coexist", "supersede_previous"])
    (readVariant RawSupersessionPolicy.variants) PlainVariant :=
  variant_admitted (by decide)

/-- The schema lists the names of the two effects, in another order than the type. -/
theorem effect_admitted : Agrees isDateTime (.oneText ["block_all", "block_minting_only"])
    (readVariant PostRevocationEffect.variants) PlainVariant :=
  variant_admitted (by decide)

/-- A policy that the schema admits is read when it names its effect. -/
theorem RawRevocation.admitted {tree : JsonTree}
    (isValid : PublishedSchema.revocation.valid isPlainInteger isDateTime tree = true)
    (named : ∃ effect, tree.member "post_revocation_effect" = some effect) :
    RawRevocation.Plain tree ∧ ∃ revocation, RawRevocation.fromTree tree = some revocation := by
  obtain ⟨members, rfl, admitted⟩ :=
    admitted_of_valid RawRevocation.shape isValid (by decide)
  obtain ⟨revocable, readRevocable, plainRevocable⟩ :=
    admitted.required "revocable" (by decide) rfl bool_admitted
  obtain ⟨endpoint, readEndpoint, plainEndpoint⟩ :=
    admitted.required "revocation_endpoint" (by decide) rfl string_admitted
  obtain ⟨effect, readEffect, plainEffect⟩ := required_member named fun tree found =>
    effect_admitted tree (admitted.typed "post_revocation_effect" tree _ found rfl)
  refine ⟨admitted.shape_plain (.cons plainRevocable <| .cons plainEndpoint <|
    .cons plainEffect .nil), ⟨revocable, endpoint, effect⟩, ?_⟩
  exact read_next admitted.opened <| read_next readRevocable <| read_next readEndpoint <|
    read_next readEffect <| rfl

/-- Without its effect a policy is not read. It is a required field without a default. -/
theorem RawRevocation.effect_named {members : List (String × JsonTree)}
    {revocation : RawRevocation}
    (isRead : RawRevocation.fromTree (.object members) = some revocation) :
    ∃ effect, members.lookup "post_revocation_effect" = some effect := by
  simp only [RawRevocation.fromTree, Option.bind_eq_bind, Option.bind_eq_some_iff] at isRead
  obtain ⟨opened, isOpened, _, _, _, _, _, readEffect, _⟩ := isRead
  obtain ⟨_, kept⟩ := Option.ite_none_right_eq_some.mp isOpened
  obtain rfl : members = opened := Option.some.inj kept
  obtain ⟨effect, found, _⟩ := Option.bind_eq_some_iff.mp readEffect
  exact ⟨effect, found⟩

/-- The policy of an admitted grant is read when it names its effect. The schema does not require
the effect, and this is where its documents and the reader part. -/
theorem revocation_read {names : List String} {schemas : List (String × Schema)}
    {members : List (String × JsonTree)}
    (admitted : Admitted isDateTime RawTrustGrantDocument.shape names schemas members)
    (its : schemas.lookup "revocation" = some PublishedSchema.revocation)
    (named : NamesEffect (.object members)) :
    ∃ revocation, optionalField RawRevocation.fromTree "revocation" members = some revocation ∧
      PlainMember RawRevocation.Plain (members.lookup "revocation") :=
  optional_member fun tree found => .inr <|
    RawRevocation.admitted (admitted.typed "revocation" tree _ found its) (named tree found)

section TimeStamps

variable {readDateTime : String → Option DateTime}

/-- A grant that is read names the effect of its revocation policy. The reader goes through the
members in order, and those before the policy are passed over. -/
theorem RawTrustGrantDocument.effect_named {tree : JsonTree} {document : RawTrustGrantDocument}
    (isValid : PublishedSchema.document.valid isPlainInteger isDateTime tree = true)
    (isRead : RawTrustGrantDocument.fromTree readDateTime tree = some document) :
    NamesEffect tree := by
  obtain ⟨members, rfl, admitted⟩ :=
    admitted_of_valid RawTrustGrantDocument.shape isValid (by decide)
  obtain ⟨opened, isOpened, isRead⟩ := Option.bind_eq_some_iff.mp isRead
  obtain rfl : members = opened := Option.some.inj (admitted.opened.symm.trans isOpened)
  -- the fields before the policy
  iterate 15 obtain ⟨_, _, isRead⟩ := Option.bind_eq_some_iff.mp isRead
  obtain ⟨_, readRevocation, _⟩ := Option.bind_eq_some_iff.mp isRead
  intro revocation found
  have known : members.lookup "revocation" = some revocation := found
  rw [optionalField, known] at readRevocation
  obtain ⟨policy, rfl, admittedPolicy⟩ := admitted_of_valid RawRevocation.shape
    (admitted.typed "revocation" revocation _ found rfl) (by decide)
  obtain ⟨_, readPolicy, _⟩ := Option.map_eq_some_iff.mp readRevocation
  exact RawRevocation.effect_named readPolicy

variable (reads : ∀ text, isDateTime text = true → (readDateTime text).isSome = true)

include reads

/-- What the schema of windows admits is read and plain, if chrono reads the date-times of the
schema. -/
theorem RawTimeWindow.admitted :
    Agrees isDateTime timeWindow (RawTimeWindow.fromTree readDateTime) RawTimeWindow.Plain := by
  intro tree isValid
  obtain ⟨members, rfl, admitted⟩ :=
    admitted_of_valid RawTimeWindow.shape isValid (by decide)
  obtain ⟨notBefore, readNotBefore, plainNotBefore⟩ :=
    admitted.required "not_before" (by decide) rfl (text_admitted reads)
  obtain ⟨notAfter, readNotAfter, plainNotAfter⟩ :=
    admitted.required "not_after" (by decide) rfl (text_admitted reads)
  refine ⟨admitted.shape_plain (.cons plainNotBefore <| .cons plainNotAfter .nil),
    ⟨notBefore, notAfter⟩, ?_⟩
  exact read_next admitted.opened <| read_next readNotBefore <| read_next readNotAfter <| rfl

/-- What the schema of the constraints of a grant admits is read and plain. -/
theorem RawGlobalConstraints.admitted :
    Agrees isDateTime globalConstraints
      (RawGlobalConstraints.fromTree readDateTime) RawGlobalConstraints.Plain := by
  intro tree isValid
  obtain ⟨members, rfl, admitted⟩ :=
    admitted_of_valid RawGlobalConstraints.shape isValid (by decide)
  obtain ⟨time, readTime, plainTime⟩ :=
    admitted.optional "time" rfl (RawTimeWindow.admitted reads).option
  refine ⟨admitted.shape_plain (.cons plainTime .nil), ⟨time⟩, ?_⟩
  exact read_next admitted.opened <| read_next readTime <| rfl

/-- The same for the window of a transition. -/
theorem RawOwnershipTransitionTimeWindow.admitted :
    Agrees isDateTime timeWindow
      (RawOwnershipTransitionTimeWindow.fromTree readDateTime)
      RawOwnershipTransitionTimeWindow.Plain := by
  intro tree isValid
  obtain ⟨members, rfl, admitted⟩ :=
    admitted_of_valid RawOwnershipTransitionTimeWindow.shape isValid (by decide)
  obtain ⟨notBefore, readNotBefore, plainNotBefore⟩ :=
    admitted.required "not_before" (by decide) rfl (text_admitted reads)
  obtain ⟨notAfter, readNotAfter, plainNotAfter⟩ :=
    admitted.required "not_after" (by decide) rfl (text_admitted reads)
  refine ⟨admitted.shape_plain (.cons plainNotBefore <| .cons plainNotAfter .nil),
    ⟨notBefore, notAfter⟩, ?_⟩
  exact read_next admitted.opened <| read_next readNotBefore <| read_next readNotAfter <| rfl

/-- The same for the constraints of a transition. -/
theorem RawOwnershipTransitionGlobalConstraints.admitted :
    Agrees isDateTime globalConstraints
      (RawOwnershipTransitionGlobalConstraints.fromTree readDateTime)
      RawOwnershipTransitionGlobalConstraints.Plain := by
  intro tree isValid
  obtain ⟨members, rfl, admitted⟩ :=
    admitted_of_valid RawOwnershipTransitionGlobalConstraints.shape isValid (by decide)
  obtain ⟨time, readTime, plainTime⟩ :=
    admitted.optional "time" rfl (RawOwnershipTransitionTimeWindow.admitted reads).option
  refine ⟨admitted.shape_plain (.cons plainTime .nil), ⟨time⟩, ?_⟩
  exact read_next admitted.opened <| read_next readTime <| rfl

/-- The same for the acceptance of the successor. -/
theorem RawOwnershipTransitionAcceptance.admitted :
    Agrees isDateTime TransitionSchema.successorAcceptance
      (RawOwnershipTransitionAcceptance.fromTree readDateTime)
      RawOwnershipTransitionAcceptance.Plain := by
  intro tree isValid
  obtain ⟨members, rfl, admitted⟩ :=
    admitted_of_valid RawOwnershipTransitionAcceptance.shape isValid (by decide)
  obtain ⟨acceptedAt, readAcceptedAt, plainAcceptedAt⟩ :=
    admitted.required "accepted_at" (by decide) rfl (text_admitted reads)
  obtain ⟨keyId, readKeyId, plainKeyId⟩ :=
    admitted.required "key_id" (by decide) rfl string_admitted
  obtain ⟨signature, readSignature, plainSignature⟩ :=
    admitted.required "signature" (by decide) rfl string_admitted
  refine ⟨admitted.shape_plain (.cons plainAcceptedAt <| .cons plainKeyId <|
    .cons plainSignature .nil), ⟨acceptedAt, keyId, signature⟩, ?_⟩
  exact read_next admitted.opened <| read_next readAcceptedAt <| read_next readKeyId <|
    read_next readSignature <| rfl

/-- What the schema of transitions admits is read and plain. It requires every field that the
reader does. -/
theorem RawOwnershipTransitionDocument.admitted :
    Agrees isDateTime TransitionSchema.document
      (RawOwnershipTransitionDocument.fromTree readDateTime)
      RawOwnershipTransitionDocument.Plain := by
  intro tree isValid
  obtain ⟨members, rfl, admitted⟩ :=
    admitted_of_valid RawOwnershipTransitionDocument.shape isValid (by decide)
  obtain ⟨transitionId, readTransitionId, plainTransitionId⟩ :=
    admitted.required "transition_id" (by decide) rfl string_admitted
  obtain ⟨version, readVersion, plainVersion⟩ :=
    admitted.required "version" (by decide) rfl u8_zero_admitted
  obtain ⟨transitionSeriesId, readTransitionSeriesId, plainTransitionSeriesId⟩ :=
    admitted.required "transition_series_id" (by decide) rfl string_admitted
  obtain ⟨revision, readRevision, plainRevision⟩ :=
    admitted.required "revision" (by decide) rfl u64_admitted
  obtain ⟨supersedesTransitionId, readSupersedesTransitionId, plainSupersedesTransitionId⟩ :=
    admitted.optional "supersedes_transition_id" rfl string_admitted.nullable
  obtain ⟨originAuthority, readOriginAuthority, plainOriginAuthority⟩ :=
    admitted.required "origin_authority" (by decide) rfl string_admitted
  obtain ⟨fromAuthority, readFromAuthority, plainFromAuthority⟩ :=
    admitted.required "from_authority" (by decide) rfl string_admitted
  obtain ⟨toAuthority, readToAuthority, plainToAuthority⟩ :=
    admitted.required "to_authority" (by decide) rfl string_admitted
  obtain ⟨canonicalResourceScope, readCanonicalResourceScope, plainCanonicalResourceScope⟩ :=
    admitted.required "canonical_resource_scope" (by decide) rfl
      RawOwnershipTransitionResourceScope.admitted
  obtain ⟨globalConstraints, readGlobalConstraints, plainGlobalConstraints⟩ :=
    admitted.optional "global_constraints" rfl
      (RawOwnershipTransitionGlobalConstraints.admitted reads).option
  obtain ⟨effectiveAt, readEffectiveAt, plainEffectiveAt⟩ :=
    admitted.required "effective_at" (by decide) rfl (text_admitted reads)
  obtain ⟨predecessorSignature, readPredecessorSignature, plainPredecessorSignature⟩ :=
    admitted.required "predecessor_signature" (by decide) rfl
      RawOwnershipTransitionSignature.admitted
  obtain ⟨successorAcceptance, readSuccessorAcceptance, plainSuccessorAcceptance⟩ :=
    admitted.required "successor_acceptance" (by decide) rfl
      (RawOwnershipTransitionAcceptance.admitted reads)
  refine ⟨admitted.shape_plain (.cons plainTransitionId <| .cons plainVersion <|
    .cons plainTransitionSeriesId <| .cons plainRevision <| .cons plainSupersedesTransitionId <|
    .cons plainOriginAuthority <| .cons plainFromAuthority <| .cons plainToAuthority <|
    .cons plainCanonicalResourceScope <| .cons plainGlobalConstraints <| .cons plainEffectiveAt <|
    .cons plainPredecessorSignature <| .cons plainSuccessorAcceptance .nil),
    ⟨transitionId, version, transitionSeriesId, revision, supersedesTransitionId, originAuthority,
    fromAuthority, toAuthority, canonicalResourceScope, globalConstraints, effectiveAt,
    predecessorSignature, successorAcceptance⟩, ?_⟩
  exact read_next admitted.opened <| read_next readTransitionId <| read_next readVersion <|
    read_next readTransitionSeriesId <| read_next readRevision <|
    read_next readSupersedesTransitionId <| read_next readOriginAuthority <|
    read_next readFromAuthority <| read_next readToAuthority <|
    read_next readCanonicalResourceScope <| read_next readGlobalConstraints <|
    read_next readEffectiveAt <| read_next readPredecessorSignature <|
    read_next readSuccessorAcceptance <| rfl

/-- A grant that the schema admits is read when its revocation policy, if it has one, names
its effect. -/
theorem RawTrustGrantDocument.admitted {tree : JsonTree}
    (isValid : PublishedSchema.document.valid isPlainInteger isDateTime tree = true)
    (named : NamesEffect tree) :
    RawTrustGrantDocument.Plain tree ∧
      ∃ document, RawTrustGrantDocument.fromTree readDateTime tree = some document := by
  obtain ⟨members, rfl, admitted⟩ :=
    admitted_of_valid RawTrustGrantDocument.shape isValid (by decide)
  obtain ⟨trustgrantId, readTrustgrantId, plainTrustgrantId⟩ :=
    admitted.required "trustgrant_id" (by decide) rfl string_admitted
  obtain ⟨version, readVersion, plainVersion⟩ :=
    admitted.required "version" (by decide) rfl u8_zero_admitted
  obtain ⟨grantSeriesId, readGrantSeriesId, plainGrantSeriesId⟩ :=
    admitted.required "grant_series_id" (by decide) rfl string_admitted
  obtain ⟨revision, readRevision, plainRevision⟩ :=
    admitted.required "revision" (by decide) rfl u64_admitted
  obtain ⟨supersedes, readSupersedes, plainSupersedes⟩ :=
    admitted.optional "supersedes" rfl string_admitted.nullable
  obtain ⟨supersessionPolicy, readSupersessionPolicy, plainSupersessionPolicy⟩ :=
    admitted.required "supersession_policy" (by decide) rfl policy_admitted
  obtain ⟨issuerAuthority, readIssuerAuthority, plainIssuerAuthority⟩ :=
    admitted.required "issuer_authority" (by decide) rfl string_admitted
  obtain ⟨originAuthority, readOriginAuthority, plainOriginAuthority⟩ :=
    admitted.required "origin_authority" (by decide) rfl string_admitted
  obtain ⟨activeOwningAuthority, readActiveOwningAuthority, plainActiveOwningAuthority⟩ :=
    admitted.required "active_owning_authority" (by decide) rfl string_admitted
  obtain ⟨keyId, readKeyId, plainKeyId⟩ :=
    admitted.required "key_id" (by decide) rfl string_admitted
  obtain ⟨targetScope, readTargetScope, plainTargetScope⟩ :=
    admitted.required "target_scope" (by decide) rfl RawScope.admitted
  obtain ⟨capabilities, readCapabilities, plainCapabilities⟩ :=
    admitted.required "capabilities" (by decide) rfl RawCapabilities.admitted
  obtain ⟨defaultAudienceScope, readDefaultAudienceScope, plainDefaultAudienceScope⟩ :=
    admitted.optional "default_audience_scope" rfl
      (vec_admitted RawAudienceEntry.admitted (by simp)).nullable
  obtain ⟨resourceScope, readResourceScope, plainResourceScope⟩ :=
    admitted.required "resource_scope" (by decide) rfl RawResourceScope.admitted
  obtain ⟨globalConstraints, readGlobalConstraints, plainGlobalConstraints⟩ :=
    admitted.optional "global_constraints" rfl (RawGlobalConstraints.admitted reads).option
  obtain ⟨revocation, readRevocation, plainRevocation⟩ := revocation_read admitted rfl named
  obtain ⟨issuedAt, readIssuedAt, plainIssuedAt⟩ :=
    admitted.required "issued_at" (by decide) rfl (text_admitted reads)
  obtain ⟨signature, readSignature, plainSignature⟩ :=
    admitted.required "signature" (by decide) rfl string_admitted
  obtain ⟨issuerPrincipal, readIssuerPrincipal, plainIssuerPrincipal⟩ :=
    admitted.optional "issuer_principal" rfl RawPrincipal.admitted.nullable
  obtain ⟨interoperabilityProfile, readInteroperabilityProfile, plainInteroperabilityProfile⟩ :=
    admitted.optional "interoperability_profile" rfl InteroperabilityProfile.admitted.option
  refine ⟨admitted.shape_plain (.cons plainTrustgrantId <| .cons plainVersion <|
    .cons plainGrantSeriesId <| .cons plainRevision <| .cons plainSupersedes <|
    .cons plainSupersessionPolicy <| .cons plainIssuerAuthority <| .cons plainOriginAuthority <|
    .cons plainActiveOwningAuthority <| .cons plainKeyId <| .cons plainTargetScope <|
    .cons plainCapabilities <| .cons plainDefaultAudienceScope <| .cons plainResourceScope <|
    .cons plainGlobalConstraints <| .cons plainRevocation <| .cons plainIssuedAt <|
    .cons plainSignature <| .cons plainIssuerPrincipal <|
    .cons plainInteroperabilityProfile .nil),
    ⟨trustgrantId, version, grantSeriesId, revision, supersedes, supersessionPolicy,
    issuerAuthority, originAuthority, activeOwningAuthority, keyId, targetScope, capabilities,
    defaultAudienceScope, resourceScope, globalConstraints, revocation, issuedAt, signature,
    issuerPrincipal, interoperabilityProfile⟩, ?_⟩
  exact read_next admitted.opened <| read_next readTrustgrantId <| read_next readVersion <|
    read_next readGrantSeriesId <| read_next readRevision <| read_next readSupersedes <|
    read_next readSupersessionPolicy <| read_next readIssuerAuthority <|
    read_next readOriginAuthority <| read_next readActiveOwningAuthority <| read_next readKeyId <|
    read_next readTargetScope <| read_next readCapabilities <|
    read_next readDefaultAudienceScope <| read_next readResourceScope <|
    read_next readGlobalConstraints <| read_next readRevocation <| read_next readIssuedAt <|
    read_next readSignature <| read_next readIssuerPrincipal <|
    read_next readInteroperabilityProfile <| rfl

end TimeStamps

end Admitted

/-- A policy that names its effect has no default to take. -/
theorem with_default_effect_named (revocation : JsonTree)
    (named : ∃ effect, revocation.member "post_revocation_effect" = some effect) :
    withDefaultEffect revocation = revocation := by
  cases revocation with
  | object members => exact if_pos (Option.isSome_iff_exists.mpr named)
  | _ => rfl

/-- A document that names its effect, or that has no policy, is not changed by filling in the
default. -/
theorem with_defaults_named (members : List (String × JsonTree))
    (distinct : (members.map Prod.fst).Nodup) (named : NamesEffect (.object members)) :
    withDefaults (.object members) = .object members := by
  refine congrArg JsonTree.object ((List.map_congr_left fun member inside => ?_).trans
    members.map_id)
  by_cases isRevocation : member.1 = "revocation"
  · have found : members.lookup "revocation" = some member.2 :=
      isRevocation ▸ JsonTree.lookup_of_mem member.1 member.2 members distinct inside
    rw [if_pos isRevocation, with_default_effect_named member.2 (named member.2 found)]
    rfl
  · rw [if_neg isRevocation]
    rfl

/-- A transition is parsed exactly when it is within the limit and its text is read. -/
theorem parse_transition_ok_iff (fromStr : String → Option RawOwnershipTransitionDocument)
    (json : String) (document : RawOwnershipTransitionDocument) :
    RawOwnershipTransitionDocument.parseJsonStr fromStr json = .ok document ↔
      Text.len json ≤ Limits.maxOwnershipTransitionJsonBytes ∧ fromStr json = some document := by
  simp only [RawOwnershipTransitionDocument.parseJsonStr, ensureJsonSize, Results.bind_ok_iff,
    Results.reject_if_ok_iff, Results.ok_or_ok_iff, not_lt, exists_and_left, exists_const]

section Parsing

variable (readDateTime : String → Option DateTime) (parse : String → Option JsonTree)

/-- The grant is parsed, and it says what its text says with the default of its policy. -/
def ParsesGrant (json : String) (tree : JsonTree) : Prop :=
  ∃ document, RawTrustGrantDocument.parseJsonStr
      (RawTrustGrantDocument.fromStr readDateTime parse) json = .ok document ∧
    (withDefaults tree).SameValue (Respelled readDateTime) document.toValue

/-- The ownership transition is parsed, and it says what its text says. -/
def ParsesTransition (json : String) (tree : JsonTree) : Prop :=
  ∃ document, RawOwnershipTransitionDocument.parseJsonStr
      (RawOwnershipTransitionDocument.fromStr readDateTime parse) json = .ok document ∧
    tree.SameValue (Respelled readDateTime) document.toValue

/-- Within the size limit a transition that its schema admits parses, and a grant that its schema
admits parses exactly when its revocation policy, if it has one, names its effect. Admission
gives the reader what it asks for, type by type; that one member is the only one that the reader
asks for and the schema does not. -/
theorem published_documents_parse
    (readsDateTimes : ∀ text, Rfc3339.isDateTime text = true → (readDateTime text).isSome = true)
    (json : String) (tree : JsonTree) (parsed : parse json = some tree) :
    (Text.len json ≤ Limits.maxTrustgrantJsonBytes →
      PublishedSchema.document.valid isPlainInteger Rfc3339.isDateTime tree = true →
        (ParsesGrant readDateTime parse json tree ↔ NamesEffect tree)) ∧
    (Text.len json ≤ Limits.maxOwnershipTransitionJsonBytes →
      TransitionSchema.document.valid isPlainInteger Rfc3339.isDateTime tree = true →
        ParsesTransition readDateTime parse json tree) := by
  constructor
  · intro within isValid
    have parses : ∀ document, RawTrustGrantDocument.parseJsonStr
        (RawTrustGrantDocument.fromStr readDateTime parse) json = .ok document ↔
          RawTrustGrantDocument.fromTree readDateTime tree = some document := by
      intro document
      rw [parse_json_str_ok_iff, RawTrustGrantDocument.fromStr, parsed, Option.bind_some]
      exact and_iff_right within
    constructor
    · rintro ⟨document, accepted, _⟩
      exact RawTrustGrantDocument.effect_named isValid ((parses document).mp accepted)
    · intro named
      obtain ⟨isPlain, document, isRead⟩ :=
        RawTrustGrantDocument.admitted readsDateTimes isValid named
      refine ⟨document, (parses document).mpr isRead, ?_⟩
      obtain ⟨members, rfl, distinct, _⟩ := Schema.valid_object _ _ _ _ tree isValid
      rw [with_defaults_named members distinct named, same_explicit_value]
      exact (RawTrustGrantDocument.faithful.same _ document isRead).mpr isPlain
  · intro within isValid
    obtain ⟨isPlain, document, isRead⟩ :=
      RawOwnershipTransitionDocument.admitted readsDateTimes tree isValid
    refine ⟨document, ?_, (RawOwnershipTransitionDocument.faithful.same _ _ isRead).mpr isPlain⟩
    rw [parse_transition_ok_iff, RawOwnershipTransitionDocument.fromStr, parsed,
      Option.bind_some]
    exact ⟨within, isRead⟩

end Parsing

/-- Reading any date-time as one instant. -/
def readOneInstant (text : String) : Option DateTime :=
  if Rfc3339.isDateTime text then some smallInstant else none

/-- The small grant with a revocation policy that has these members besides. -/
def revocableTree (effect : List (String × JsonTree)) : JsonTree :=
  smallTree [] [("revocation", .object ([("revocable", .bool true),
    ("revocation_endpoint", .string "https://i.example/r")] ++ effect))]

/-- A small ownership transition. -/
def smallTransitionTree : JsonTree :=
  .object [("transition_id", .string "tgt_123e4567-e89b-12d3-a456-426614174000"),
    ("version", .natural 0),
    ("transition_series_id", .string "tgts_123e4567-e89b-12d3-a456-426614174001"),
    ("revision", .natural 1), ("origin_authority", .string "did:i"),
    ("from_authority", .string "did:i"), ("to_authority", .string "did:j"),
    ("canonical_resource_scope", .object [("types", .object [("item", .object [
      ("all", .bool false), ("allow", .array [.object [("kind", .string "namespace"),
        ("all", .bool false), ("values", .array [.string "n"])]]), ("deny", .null)])])]),
    ("effective_at", .string "2026-04-07T12:00:00Z"),
    ("predecessor_signature", .object [("key_id", .string "k"), ("signature", .string "s")]),
    ("successor_acceptance", .object [("accepted_at", .string "2026-04-07T12:00:00Z"),
      ("key_id", .string "k"), ("signature", .string "s")])]

/-- A grant whose policy names its effect parses, and so does a transition. The reader of the
texts is a small one that knows the text of these trees. -/
theorem small_published_parse :
    ParsesGrant readOneInstant
        (readTreeText (revocableTree [("post_revocation_effect", .string "block_all")]))
        (treeText (revocableTree [("post_revocation_effect", .string "block_all")]))
        (revocableTree [("post_revocation_effect", .string "block_all")]) ∧
      ParsesTransition readOneInstant (readTreeText smallTransitionTree)
        (treeText smallTransitionTree) smallTransitionTree := by
  have reads : ∀ text, Rfc3339.isDateTime text = true →
      (readOneInstant text).isSome = true := by
    intro text isDateTime
    rw [readOneInstant, if_pos isDateTime]
    rfl
  constructor
  · refine ((published_documents_parse readOneInstant _ reads _ _ (read_tree_text _)).1
      ((Text.len_of_list_le _).trans (by decide +kernel)) (by decide +kernel)).mpr ?_
    intro revocation found
    cases found
    exact ⟨_, rfl⟩
  · exact (published_documents_parse readOneInstant _ reads _ _ (read_tree_text _)).2
      ((Text.len_of_list_le _).trans (by decide +kernel)) (by decide +kernel)

/-- A grant that its schema admits is refused because its policy leaves its effect to the
default. The schema knows a default for this member and the reader asks for the member. -/
theorem default_effect_refused :
    PublishedSchema.document.valid isPlainInteger Rfc3339.isDateTime (revocableTree []) = true ∧
      Text.len (treeText (revocableTree [])) ≤ Limits.maxTrustgrantJsonBytes ∧
      readTreeText (revocableTree []) (treeText (revocableTree [])) = some (revocableTree []) ∧
      RawTrustGrantDocument.parseJsonStr
        (RawTrustGrantDocument.fromStr readOneInstant (readTreeText (revocableTree [])))
        (treeText (revocableTree [])) = .error .invalidJsonDocument := by
  have within : Text.len (treeText (revocableTree [])) ≤ Limits.maxTrustgrantJsonBytes :=
    (Text.len_of_list_le _).trans (by decide +kernel)
  refine ⟨by decide +kernel, within, read_tree_text _, ?_⟩
  have notRead : RawTrustGrantDocument.fromTree readOneInstant (revocableTree []) = none := by
    rfl
  rw [RawTrustGrantDocument.parseJsonStr, ensureJsonSize, Results.rejectIf,
    if_neg (Nat.not_lt.mpr within), RawTrustGrantDocument.fromStr, read_tree_text,
    Option.bind_some, notRead]
  rfl

end TrustGrant
