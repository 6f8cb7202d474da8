import TrustGrant.Document.Deserialize
import TrustGrant.Document.WireValue

/-!
# Plain wire documents

A wire document is plain when its structures are objects and its variants are names, the
objects whose types ignore unknown fields have none but null ones, and no resource type is
named twice. A document that was read says the same when it is written again exactly when it
was plain.
-/

namespace TrustGrant

open Rust Rust.Serde Library

/-- The members whose text is read as a time stamp. -/
def timeStampNames : List String :=
  ["issued_at", "not_before", "not_after", "effective_at", "accepted_at"]

/-- Any kind and any identifier, in an object without other members. -/
def RawPrincipal.Plain : JsonTree → Prop := RawPrincipal.shape.Plain [Anything, Anything]

/-- Anything in a field of a selector is plain; the lists are arrays because they are read as
such. -/
def RawSelector.Plain : JsonTree → Prop :=
  RawSelector.shape.Plain [Anything, Anything, EveryItem Anything, EveryItem Anything]

/-- A scope is plain when its selectors are. Its type denies unknown members, so there is nothing
else to lose. -/
def RawScope.Plain : JsonTree → Prop :=
  RawScope.shape.Plain [Anything, EveryItem RawSelector.Plain, EveryItem RawSelector.Plain]

/-- Unknown members are ignored, so none but null ones may be there. -/
def RawCapabilities.Plain : JsonTree → Prop := RawCapabilities.shape.Plain [Anything, Anything]

/-- An audience entry is plain when both of its scopes are; a missing one is. -/
def RawAudienceEntry.Plain : JsonTree → Prop :=
  RawAudienceEntry.shape.Plain [Anything, RawScope.Plain, RawScope.Plain]

/-- Unknown members are ignored, so none but null ones may be there. -/
def RawTypeCapabilities.Plain : JsonTree → Prop :=
  RawTypeCapabilities.shape.Plain [Anything, Anything]

/-- Unknown members are ignored, so none but null ones may be there. -/
def RawMintingConstraints.Plain : JsonTree → Prop :=
  RawMintingConstraints.shape.Plain [Anything, Anything]

/-- Type constraints deny unknown members, but the limits inside them do not. -/
def RawTypeConstraints.Plain : JsonTree → Prop :=
  RawTypeConstraints.shape.Plain [RawMintingConstraints.Plain, EveryItem RawAudienceEntry.Plain]

/-- A scope of operations holds names only. Any lists of names are plain. -/
def RawOperationScope.Plain : JsonTree → Prop :=
  RawOperationScope.shape.Plain [EveryItem Anything, EveryItem Anything]

/-- A resource type is plain when all that it nests is. -/
def RawResourceType.Plain : JsonTree → Prop :=
  RawResourceType.shape.Plain [Anything, EveryItem RawSelector.Plain,
    EveryItem RawSelector.Plain, RawTypeCapabilities.Plain, RawTypeConstraints.Plain,
    RawOperationScope.Plain]

/-- No type is named twice. Of two blocks with one name the reader keeps the last, and the first
is lost. -/
def RawResourceScope.Plain : JsonTree → Prop :=
  RawResourceScope.shape.Plain [EveryEntry RawResourceType.Plain]

/-- Any two time stamps, however they are spelled: a time stamp is respelled when it is
written. -/
def RawTimeWindow.Plain : JsonTree → Prop := RawTimeWindow.shape.Plain [Anything, Anything]

/-- The constraints of a grant are plain when their window is. -/
def RawGlobalConstraints.Plain : JsonTree → Prop :=
  RawGlobalConstraints.shape.Plain [RawTimeWindow.Plain]

/-- Any name and any version. -/
def InteroperabilityProfile.Plain : JsonTree → Prop :=
  InteroperabilityProfile.shape.Plain [Anything, Anything]

/-- The effect of a revocation is given by its name and not as an object. -/
def RawRevocation.Plain : JsonTree → Prop :=
  RawRevocation.shape.Plain [Anything, Anything, PlainVariant]

/-- A grant is plain when its nested structures are and its policy is given by its name, member
by member in the order in which the type declares them. -/
def RawTrustGrantDocument.Plain : JsonTree → Prop :=
  RawTrustGrantDocument.shape.Plain [Anything, Anything, Anything, Anything, Anything,
    PlainVariant, Anything, Anything, Anything, Anything, RawScope.Plain, RawCapabilities.Plain,
    EveryItem RawAudienceEntry.Plain, RawResourceScope.Plain, RawGlobalConstraints.Plain,
    RawRevocation.Plain, Anything, Anything, RawPrincipal.Plain, InteroperabilityProfile.Plain]

/-- Anything in a field of a selector is plain, as for grants. -/
def RawOwnershipTransitionSelector.Plain : JsonTree → Prop :=
  RawOwnershipTransitionSelector.shape.Plain
    [Anything, Anything, EveryItem Anything, EveryItem Anything]

/-- A resource type of a transition is plain when its selectors are. -/
def RawOwnershipTransitionResourceType.Plain : JsonTree → Prop :=
  RawOwnershipTransitionResourceType.shape.Plain [Anything,
    EveryItem RawOwnershipTransitionSelector.Plain, EveryItem RawOwnershipTransitionSelector.Plain]

/-- No type is named twice. The map of a transition keeps the last block of a name as well. -/
def RawOwnershipTransitionResourceScope.Plain : JsonTree → Prop :=
  RawOwnershipTransitionResourceScope.shape.Plain
    [EveryEntry RawOwnershipTransitionResourceType.Plain]

/-- Any two time stamps, however they are spelled. -/
def RawOwnershipTransitionTimeWindow.Plain : JsonTree → Prop :=
  RawOwnershipTransitionTimeWindow.shape.Plain [Anything, Anything]

/-- The constraints of a transition are plain when their window is. -/
def RawOwnershipTransitionGlobalConstraints.Plain : JsonTree → Prop :=
  RawOwnershipTransitionGlobalConstraints.shape.Plain [RawOwnershipTransitionTimeWindow.Plain]

/-- Any key and any signature. -/
def RawOwnershipTransitionSignature.Plain : JsonTree → Prop :=
  RawOwnershipTransitionSignature.shape.Plain [Anything, Anything]

/-- Any time stamp, key and signature. -/
def RawOwnershipTransitionAcceptance.Plain : JsonTree → Prop :=
  RawOwnershipTransitionAcceptance.shape.Plain [Anything, Anything, Anything]

/-- A transition is plain when its nested structures are. No structure of a transition ignores
unknown members. -/
def RawOwnershipTransitionDocument.Plain : JsonTree → Prop :=
  RawOwnershipTransitionDocument.shape.Plain [Anything, Anything, Anything, Anything, Anything,
    Anything, Anything, Anything, RawOwnershipTransitionResourceScope.Plain,
    RawOwnershipTransitionGlobalConstraints.Plain, Anything,
    RawOwnershipTransitionSignature.Plain, RawOwnershipTransitionAcceptance.Plain]

/-- The value of a grant with its profile shown also when it is absent. With it the reader treats
all fields alike, and the profile that is left out is one lemma. -/
def RawTrustGrantDocument.explicitValue (document : RawTrustGrantDocument) : Json :=
  .object [("trustgrant_id", .string document.trustgrantId),
    ("version", .number document.version.toNat),
    ("grant_series_id", .string document.grantSeriesId),
    ("revision", u64Value document.revision),
    ("supersedes", optionValue .string document.supersedes),
    ("supersession_policy", document.supersessionPolicy.toValue),
    ("issuer_authority", .string document.issuerAuthority),
    ("origin_authority", .string document.originAuthority),
    ("active_owning_authority", .string document.activeOwningAuthority),
    ("key_id", .string document.keyId),
    ("target_scope", document.targetScope.toValue),
    ("capabilities", document.capabilities.toValue),
    ("default_audience_scope", audienceValue document.defaultAudienceScope),
    ("resource_scope", document.resourceScope.toValue),
    ("global_constraints", optionValue RawGlobalConstraints.toValue document.globalConstraints),
    ("revocation", optionValue RawRevocation.toValue document.revocation),
    ("issued_at", dateTimeValue document.issuedAt),
    ("signature", .string document.signature),
    ("issuer_principal", optionValue RawPrincipal.toValue document.issuerPrincipal),
    ("interoperability_profile",
      optionValue InteroperabilityProfile.toValue document.interoperabilityProfile)]

section Faithful

variable (readDateTime : String → Option DateTime)

/-- A time stamp may be spelled anew. -/
def Respelled (name : String) (tree : JsonTree) (written : Json) : Prop :=
  name ∈ timeStampNames ∧
    ∃ time, readText readDateTime tree = some time ∧ written = dateTimeValue time

variable {readDateTime} {α : Type} {read : JsonTree → Option α} {value : α → Json}
  {plain : JsonTree → Prop} {name : String} {members : List (String × JsonTree)}

/-- A required field that was read says what is written exactly when it was plain. Its name must
not be one whose texts are respelled. -/
theorem required_field (law : Faithful (Respelled readDateTime) read value plain)
    (noStamp : name ∉ timeStampNames) {result : α}
    (accepted : requiredField read name members = some result) :
    JsonTree.SameMember (Respelled readDateTime) (name, value result) (members.lookup name) ↔
      PlainMember plain (members.lookup name) :=
  required_same law (fun _ _ respelled => noStamp respelled.1) accepted

/-- An optional field that was read says what is written exactly when it was plain or missing.
Null and missing say the same. -/
theorem optional_field (law : Faithful (Respelled readDateTime) read value plain)
    (noStamp : name ∉ timeStampNames) {result : Option α}
    (accepted : optionalField read name members = some result) :
    JsonTree.SameMember (Respelled readDateTime) (name, optionValue value result)
        (members.lookup name) ↔
      PlainMember plain (members.lookup name) := by
  have same := optional_same law (fun _ _ respelled => noStamp respelled.1) accepted
  cases result <;> exact same

/-- A field that holds a time stamp may be respelled: whichever text was read, the one that is
written is read as the same time. -/
theorem time_stamp_field (stamp : name ∈ timeStampNames) {time : DateTime}
    (accepted : requiredField (readText readDateTime) name members = some time) :
    JsonTree.SameMember (Respelled readDateTime) (name, dateTimeValue time)
        (members.lookup name) ↔
      PlainMember Anything (members.lookup name) := by
  refine required_respelled (fun tree readTree => ?_) accepted
  refine ⟨?_, stamp, time, readTree, rfl⟩
  cases tree <;> first | rfl | cases readTree

/-- A list of strings loses nothing. -/
theorem strings_faithful : Faithful (Respelled readDateTime) (readVec readString)
    (listValue .string) (EveryItem Anything) :=
  vec_faithful (string_faithful _)

/-- Reading a principal and writing it again loses nothing. Both fields are required and have
faithful readers, which is all that the rule for structures asks. -/
theorem RawPrincipal.faithful :
    Faithful (Respelled readDateTime) RawPrincipal.fromTree RawPrincipal.toValue
      RawPrincipal.Plain := by
  refine RawPrincipal.shape.faithful (by decide) _ fun tree principal accepted => ?_
  simp only [RawPrincipal.fromTree, Option.bind_eq_bind, Option.bind_eq_some_iff,
    Option.pure_def, Option.some.injEq] at accepted
  obtain ⟨members, opened, kind, readKind, id, readId, rfl⟩ := accepted
  exact ⟨members, _, opened, rfl, rfl,
    .cons (required_field (string_faithful _) (by decide) readKind) <|
    .cons (required_field (string_faithful _) (by decide) readId) .nil⟩

/-- A selector loses nothing: absent lists are written as null. A null member says the same as an
absent one, so the lists may be either. -/
theorem RawSelector.faithful :
    Faithful (Respelled readDateTime) RawSelector.fromTree RawSelector.toValue
      RawSelector.Plain := by
  refine RawSelector.shape.faithful (by decide) _ fun tree selector accepted => ?_
  simp only [RawSelector.fromTree, Option.bind_eq_bind, Option.bind_eq_some_iff,
    Option.pure_def, Option.some.injEq] at accepted
  obtain ⟨members, opened, kind, readKind, all, readAll, values, readValues, expressions,
    readExpressions, rfl⟩ := accepted
  exact ⟨members, _, opened, rfl, rfl,
    .cons (required_field (string_faithful _) (by decide) readKind) <|
    .cons (required_field (bool_faithful _) (by decide) readAll) <|
    .cons (optional_field strings_faithful (by decide) readValues) <|
    .cons (optional_field strings_faithful (by decide) readExpressions) .nil⟩

/-- A scope loses nothing exactly when its selectors do not. The rule for lists carries the
condition from the items to the list. -/
theorem RawScope.faithful :
    Faithful (Respelled readDateTime) RawScope.fromTree RawScope.toValue
      RawScope.Plain := by
  refine RawScope.shape.faithful (by decide) _ fun tree scope accepted => ?_
  simp only [RawScope.fromTree, Option.bind_eq_bind, Option.bind_eq_some_iff,
    Option.pure_def, Option.some.injEq] at accepted
  obtain ⟨members, opened, all, readAll, allow, readAllow, deny, readDeny, rfl⟩ := accepted
  exact ⟨members, _, opened, rfl, rfl,
    .cons (required_field (bool_faithful _) (by decide) readAll) <|
    .cons (optional_field (vec_faithful RawSelector.faithful) (by decide) readAllow) <|
    .cons (optional_field (vec_faithful RawSelector.faithful) (by decide) readDeny) .nil⟩

/-- Grant capabilities lose exactly the unknown members, which `Plain` rules out. -/
theorem RawCapabilities.faithful :
    Faithful (Respelled readDateTime) RawCapabilities.fromTree RawCapabilities.toValue
      RawCapabilities.Plain := by
  refine RawCapabilities.shape.faithful (by decide) _ fun tree capabilities accepted => ?_
  simp only [RawCapabilities.fromTree, Option.bind_eq_bind, Option.bind_eq_some_iff,
    Option.pure_def, Option.some.injEq] at accepted
  obtain ⟨members, opened, recognize, readRecognize, mint, readMint, rfl⟩ := accepted
  exact ⟨members, _, opened, rfl, rfl,
    .cons (required_field (bool_faithful _) (by decide) readRecognize) <|
    .cons (required_field (bool_faithful _) (by decide) readMint) .nil⟩

/-- An audience entry loses nothing exactly when its scopes do not. Both scopes may be absent,
which loses nothing either. -/
theorem RawAudienceEntry.faithful :
    Faithful (Respelled readDateTime) RawAudienceEntry.fromTree RawAudienceEntry.toValue
      RawAudienceEntry.Plain := by
  refine RawAudienceEntry.shape.faithful (by decide) _ fun tree entry accepted => ?_
  simp only [RawAudienceEntry.fromTree, Option.bind_eq_bind, Option.bind_eq_some_iff,
    Option.pure_def, Option.some.injEq] at accepted
  obtain ⟨members, opened, authorityId, readAuthorityId, scope, readScope, principalScope,
    readPrincipalScope, rfl⟩ := accepted
  exact ⟨members, _, opened, rfl, rfl,
    .cons (required_field (string_faithful _) (by decide) readAuthorityId) <|
    .cons (required_field RawScope.faithful (by decide) readScope) <|
    .cons (optional_field RawScope.faithful (by decide) readPrincipalScope) .nil⟩

/-- Type capabilities lose exactly the unknown members. Their type does not deny such members, so
its reader passes over them. -/
theorem RawTypeCapabilities.faithful :
    Faithful (Respelled readDateTime) RawTypeCapabilities.fromTree RawTypeCapabilities.toValue
      RawTypeCapabilities.Plain := by
  refine RawTypeCapabilities.shape.faithful (by decide) _ fun tree capabilities accepted => ?_
  simp only [RawTypeCapabilities.fromTree, Option.bind_eq_bind, Option.bind_eq_some_iff,
    Option.pure_def, Option.some.injEq] at accepted
  obtain ⟨members, opened, recognize, readRecognize, mint, readMint, rfl⟩ := accepted
  exact ⟨members, _, opened, rfl, rfl,
    .cons (optional_field (bool_faithful _) (by decide) readRecognize) <|
    .cons (optional_field (bool_faithful _) (by decide) readMint) .nil⟩

/-- Minting limits lose exactly the unknown members, a misspelled limit among them. What is known
is read and written as the number that it is. -/
theorem RawMintingConstraints.faithful :
    Faithful (Respelled readDateTime) RawMintingConstraints.fromTree RawMintingConstraints.toValue
      RawMintingConstraints.Plain := by
  refine RawMintingConstraints.shape.faithful (by decide) _ fun tree constraints accepted => ?_
  simp only [RawMintingConstraints.fromTree, Option.bind_eq_bind, Option.bind_eq_some_iff,
    Option.pure_def, Option.some.injEq] at accepted
  obtain ⟨members, opened, maxTotal, readMaxTotal, maxPerUser, readMaxPerUser, rfl⟩ := accepted
  exact ⟨members, _, opened, rfl, rfl,
    .cons (optional_field (u64_faithful _) (by decide) readMaxTotal) <|
    .cons (optional_field (u64_faithful _) (by decide) readMaxPerUser) .nil⟩

/-- Type constraints lose what their limits and their audience lose. Their own members are all
known, since unknown ones are denied. -/
theorem RawTypeConstraints.faithful :
    Faithful (Respelled readDateTime) RawTypeConstraints.fromTree RawTypeConstraints.toValue
      RawTypeConstraints.Plain := by
  refine RawTypeConstraints.shape.faithful (by decide) _ fun tree constraints accepted => ?_
  simp only [RawTypeConstraints.fromTree, Option.bind_eq_bind, Option.bind_eq_some_iff,
    Option.pure_def, Option.some.injEq] at accepted
  obtain ⟨members, opened, minting, readMinting, audienceScope, readAudienceScope, rfl⟩ :=
    accepted
  exact ⟨members, _, opened, rfl, rfl,
    .cons (required_field RawMintingConstraints.faithful (by decide) readMinting) <|
    .cons (optional_field (vec_faithful RawAudienceEntry.faithful) (by decide)
      readAudienceScope) .nil⟩

/-- A scope of operations loses nothing. -/
theorem RawOperationScope.faithful :
    Faithful (Respelled readDateTime) RawOperationScope.fromTree RawOperationScope.toValue
      RawOperationScope.Plain := by
  refine RawOperationScope.shape.faithful (by decide) _ fun tree scope accepted => ?_
  simp only [RawOperationScope.fromTree, Option.bind_eq_bind, Option.bind_eq_some_iff,
    Option.pure_def, Option.some.injEq] at accepted
  obtain ⟨members, opened, allow, readAllow, deny, readDeny, rfl⟩ := accepted
  exact ⟨members, _, opened, rfl, rfl,
    .cons (optional_field strings_faithful (by decide) readAllow) <|
    .cons (optional_field strings_faithful (by decide) readDeny) .nil⟩

/-- A resource type loses what its parts lose. These are its selectors, its capabilities, its
constraints and its operations. -/
theorem RawResourceType.faithful :
    Faithful (Respelled readDateTime) RawResourceType.fromTree RawResourceType.toValue
      RawResourceType.Plain := by
  refine RawResourceType.shape.faithful (by decide) _ fun tree resourceType accepted => ?_
  simp only [RawResourceType.fromTree, Option.bind_eq_bind, Option.bind_eq_some_iff,
    Option.pure_def, Option.some.injEq] at accepted
  obtain ⟨members, opened, all, readAll, allow, readAllow, deny, readDeny, capabilities,
    readCapabilities, constraints, readConstraints, operations, readOperations, rfl⟩ := accepted
  exact ⟨members, _, opened, rfl, rfl,
    .cons (required_field (bool_faithful _) (by decide) readAll) <|
    .cons (optional_field (vec_faithful RawSelector.faithful) (by decide) readAllow) <|
    .cons (optional_field (vec_faithful RawSelector.faithful) (by decide) readDeny) <|
    .cons (required_field RawTypeCapabilities.faithful (by decide) readCapabilities) <|
    .cons (required_field RawTypeConstraints.faithful (by decide) readConstraints) <|
    .cons (optional_field RawOperationScope.faithful (by decide) readOperations) .nil⟩

/-- A map of types loses nothing exactly when no name is repeated and no type loses anything. It
is written in the order of its keys, which says the same. -/
theorem types_faithful (read : JsonTree → Option α) (value : α → List (String × Json))
    (law : Faithful (Respelled readDateTime) read (fun inner => .object (value inner)) plain) :
    Faithful (Respelled readDateTime) (readMap Utf16Key.mk read)
      (fun types => .object (types.entries.map fun entry =>
        (entry.1.asStr, .object (value entry.2)))) (EveryEntry plain) := by
  refine map_faithful (fun name => rfl) law (fun _ written => by cases written) ?_
  rintro name tree result _ ⟨_, _, _, same⟩
  cases same

/-- The types of a grant lose nothing exactly when no name is repeated and no type loses
anything. -/
theorem RawResourceScope.faithful :
    Faithful (Respelled readDateTime) RawResourceScope.fromTree RawResourceScope.toValue
      RawResourceScope.Plain := by
  refine RawResourceScope.shape.faithful (by decide) _ fun tree scope accepted => ?_
  simp only [RawResourceScope.fromTree, Option.bind_eq_bind, Option.bind_eq_some_iff,
    Option.pure_def, Option.some.injEq] at accepted
  obtain ⟨members, opened, types, readTypes, rfl⟩ := accepted
  exact ⟨members, _, opened, rfl, rfl,
    .cons (required_field (types_faithful _ _ RawResourceType.faithful) (by decide) readTypes) .nil⟩

/-- A time window loses nothing but the spelling of its time stamps. A time stamp is written in
one form and may be read in several, so its spelling is compared by what it is read as. -/
theorem RawTimeWindow.faithful :
    Faithful (Respelled readDateTime) (RawTimeWindow.fromTree readDateTime) RawTimeWindow.toValue
      RawTimeWindow.Plain := by
  refine RawTimeWindow.shape.faithful (by decide) _ fun tree window accepted => ?_
  simp only [RawTimeWindow.fromTree, Option.bind_eq_bind, Option.bind_eq_some_iff,
    Option.pure_def, Option.some.injEq] at accepted
  obtain ⟨members, opened, notBefore, readNotBefore, notAfter, readNotAfter, rfl⟩ := accepted
  exact ⟨members, _, opened, rfl, rfl,
    .cons (time_stamp_field (by decide) readNotBefore) <|
    .cons (time_stamp_field (by decide) readNotAfter) .nil⟩

/-- The constraints of a grant lose what their window loses. They have no other field. -/
theorem RawGlobalConstraints.faithful :
    Faithful (Respelled readDateTime) (RawGlobalConstraints.fromTree readDateTime)
      RawGlobalConstraints.toValue RawGlobalConstraints.Plain := by
  refine RawGlobalConstraints.shape.faithful (by decide) _ fun tree constraints accepted => ?_
  simp only [RawGlobalConstraints.fromTree, Option.bind_eq_bind, Option.bind_eq_some_iff,
    Option.pure_def, Option.some.injEq] at accepted
  obtain ⟨members, opened, time, readTime, rfl⟩ := accepted
  exact ⟨members, _, opened, rfl, rfl,
    .cons (optional_field RawTimeWindow.faithful (by decide) readTime) .nil⟩

/-- A profile loses nothing. -/
theorem InteroperabilityProfile.faithful :
    Faithful (Respelled readDateTime) InteroperabilityProfile.fromTree
      InteroperabilityProfile.toValue InteroperabilityProfile.Plain := by
  refine InteroperabilityProfile.shape.faithful (by decide) _ fun tree profile accepted => ?_
  simp only [InteroperabilityProfile.fromTree, Option.bind_eq_bind, Option.bind_eq_some_iff,
    Option.pure_def, Option.some.injEq] at accepted
  obtain ⟨members, opened, name, readName, version, readVersion, rfl⟩ := accepted
  exact ⟨members, _, opened, rfl, rfl,
    .cons (required_field (string_faithful _) (by decide) readName) <|
    .cons (required_field (u64_faithful _) (by decide) readVersion) .nil⟩

/-- The effect of a revocation is written as its name. It may be read from an object as well,
which is not plain. -/
theorem effect_faithful : Faithful (Respelled readDateTime)
    (readVariant PostRevocationEffect.variants) PostRevocationEffect.toValue PlainVariant :=
  variant_faithful _ _ _ (by simp [PostRevocationEffect.variants, PostRevocationEffect.toValue])

/-- A revocation policy loses nothing when its effect was given by its name. A variant may also
be given as an object, which is read but written as a name. -/
theorem RawRevocation.faithful :
    Faithful (Respelled readDateTime) RawRevocation.fromTree RawRevocation.toValue
      RawRevocation.Plain := by
  refine RawRevocation.shape.faithful (by decide) _ fun tree revocation accepted => ?_
  simp only [RawRevocation.fromTree, Option.bind_eq_bind, Option.bind_eq_some_iff,
    Option.pure_def, Option.some.injEq] at accepted
  obtain ⟨members, opened, revocable, readRevocable, revocationEndpoint, readRevocationEndpoint,
    postRevocationEffect, readPostRevocationEffect, rfl⟩ := accepted
  exact ⟨members, _, opened, rfl, rfl,
    .cons (required_field (bool_faithful _) (by decide) readRevocable) <|
    .cons (required_field (string_faithful _) (by decide) readRevocationEndpoint) <|
    .cons (required_field effect_faithful (by decide) readPostRevocationEffect) .nil⟩

/-- A supersession policy is written as its name. It may be read from an object as well, which is
not plain. -/
theorem policy_faithful : Faithful (Respelled readDateTime)
    (readVariant RawSupersessionPolicy.variants) RawSupersessionPolicy.toValue PlainVariant :=
  variant_faithful _ _ _ (by simp [RawSupersessionPolicy.variants, RawSupersessionPolicy.toValue])

/-- An absent profile may be left out. The value that is written differs from the explicit one by
a null member only, and such a member says the same as a missing one. -/
theorem same_explicit_value (tree : JsonTree) (document : RawTrustGrantDocument) :
    tree.SameValue (Respelled readDateTime) document.toValue ↔
      tree.SameValue (Respelled readDateTime) document.explicitValue := by
  cases absent : document.interoperabilityProfile with
  | none =>
    obtain ⟨values, shown, explicit⟩ : ∃ values, document.toValue = .object values ∧
        document.explicitValue = .object (values ++ [("interoperability_profile", .null)]) := by
      rw [RawTrustGrantDocument.toValue, RawTrustGrantDocument.explicitValue, absent]
      exact ⟨_, congrArg _ (List.append_nil _), rfl⟩
    have neverNull : ∀ name tree, ¬ Respelled readDateTime name tree .null := by
      rintro name tree ⟨_, _, _, same⟩
      cases same
    rw [shown, explicit]
    cases tree with
    | object members => exact (JsonTree.same_members_null _ members values _ neverNull).symm
    | _ => exact Iff.rfl
  | some profile =>
    rw [RawTrustGrantDocument.toValue, RawTrustGrantDocument.explicitValue, absent]
    rfl

/-- A grant that was read says the same when it is written again exactly when it was plain. The
twenty fields are compared one by one, each by the lemma of its type. -/
theorem RawTrustGrantDocument.faithful :
    Faithful (Respelled readDateTime) (RawTrustGrantDocument.fromTree readDateTime)
      RawTrustGrantDocument.explicitValue RawTrustGrantDocument.Plain := by
  refine RawTrustGrantDocument.shape.faithful (by decide) _ fun tree document accepted => ?_
  obtain ⟨members, opened, accepted⟩ := Option.bind_eq_some_iff.mp accepted
  obtain ⟨trustgrantId, readTrustgrantId, accepted⟩ := Option.bind_eq_some_iff.mp accepted
  obtain ⟨version, readVersion, accepted⟩ := Option.bind_eq_some_iff.mp accepted
  obtain ⟨grantSeriesId, readGrantSeriesId, accepted⟩ := Option.bind_eq_some_iff.mp accepted
  obtain ⟨revision, readRevision, accepted⟩ := Option.bind_eq_some_iff.mp accepted
  obtain ⟨supersedes, readSupersedes, accepted⟩ := Option.bind_eq_some_iff.mp accepted
  obtain ⟨supersessionPolicy, readSupersessionPolicy, accepted⟩ :=
    Option.bind_eq_some_iff.mp accepted
  obtain ⟨issuerAuthority, readIssuerAuthority, accepted⟩ := Option.bind_eq_some_iff.mp accepted
  obtain ⟨originAuthority, readOriginAuthority, accepted⟩ := Option.bind_eq_some_iff.mp accepted
  obtain ⟨activeOwningAuthority, readActiveOwningAuthority, accepted⟩ :=
    Option.bind_eq_some_iff.mp accepted
  obtain ⟨keyId, readKeyId, accepted⟩ := Option.bind_eq_some_iff.mp accepted
  obtain ⟨targetScope, readTargetScope, accepted⟩ := Option.bind_eq_some_iff.mp accepted
  obtain ⟨capabilities, readCapabilities, accepted⟩ := Option.bind_eq_some_iff.mp accepted
  obtain ⟨defaultAudienceScope, readDefaultAudienceScope, accepted⟩ :=
    Option.bind_eq_some_iff.mp accepted
  obtain ⟨resourceScope, readResourceScope, accepted⟩ := Option.bind_eq_some_iff.mp accepted
  obtain ⟨globalConstraints, readGlobalConstraints, accepted⟩ := Option.bind_eq_some_iff.mp accepted
  obtain ⟨revocation, readRevocation, accepted⟩ := Option.bind_eq_some_iff.mp accepted
  obtain ⟨issuedAt, readIssuedAt, accepted⟩ := Option.bind_eq_some_iff.mp accepted
  obtain ⟨signature, readSignature, accepted⟩ := Option.bind_eq_some_iff.mp accepted
  obtain ⟨issuerPrincipal, readIssuerPrincipal, accepted⟩ := Option.bind_eq_some_iff.mp accepted
  obtain ⟨interoperabilityProfile, readInteroperabilityProfile, accepted⟩ :=
    Option.bind_eq_some_iff.mp accepted
  cases accepted
  exact ⟨members, _, opened, rfl, rfl,
    .cons (required_field (string_faithful _) (by decide) readTrustgrantId) <|
    .cons (required_field (u8_faithful _) (by decide) readVersion) <|
    .cons (required_field (string_faithful _) (by decide) readGrantSeriesId) <|
    .cons (required_field (u64_faithful _) (by decide) readRevision) <|
    .cons (optional_field (string_faithful _) (by decide) readSupersedes) <|
    .cons (required_field policy_faithful (by decide) readSupersessionPolicy) <|
    .cons (required_field (string_faithful _) (by decide) readIssuerAuthority) <|
    .cons (required_field (string_faithful _) (by decide) readOriginAuthority) <|
    .cons (required_field (string_faithful _) (by decide) readActiveOwningAuthority) <|
    .cons (required_field (string_faithful _) (by decide) readKeyId) <|
    .cons (required_field RawScope.faithful (by decide) readTargetScope) <|
    .cons (required_field RawCapabilities.faithful (by decide) readCapabilities) <|
    .cons (optional_field (vec_faithful RawAudienceEntry.faithful) (by decide)
      readDefaultAudienceScope) <|
    .cons (required_field RawResourceScope.faithful (by decide) readResourceScope) <|
    .cons (optional_field RawGlobalConstraints.faithful (by decide) readGlobalConstraints) <|
    .cons (optional_field RawRevocation.faithful (by decide) readRevocation) <|
    .cons (time_stamp_field (by decide) readIssuedAt) <|
    .cons (required_field (string_faithful _) (by decide) readSignature) <|
    .cons (optional_field RawPrincipal.faithful (by decide) readIssuerPrincipal) <|
    .cons (optional_field InteroperabilityProfile.faithful (by decide)
      readInteroperabilityProfile) .nil⟩

/-- A selector of a transition loses nothing. Its fields are those of a selector of a grant, but
its reader is another one. -/
theorem RawOwnershipTransitionSelector.faithful :
    Faithful (Respelled readDateTime) RawOwnershipTransitionSelector.fromTree
      RawOwnershipTransitionSelector.toValue RawOwnershipTransitionSelector.Plain := by
  refine RawOwnershipTransitionSelector.shape.faithful (by decide) _
    fun tree selector accepted => ?_
  simp only [RawOwnershipTransitionSelector.fromTree, Option.bind_eq_bind, Option.bind_eq_some_iff,
    Option.pure_def, Option.some.injEq] at accepted
  obtain ⟨members, opened, kind, readKind, all, readAll, values, readValues, expressions,
    readExpressions, rfl⟩ := accepted
  exact ⟨members, _, opened, rfl, rfl,
    .cons (required_field (string_faithful _) (by decide) readKind) <|
    .cons (required_field (bool_faithful _) (by decide) readAll) <|
    .cons (optional_field strings_faithful (by decide) readValues) <|
    .cons (optional_field strings_faithful (by decide) readExpressions) .nil⟩

/-- A resource type of a transition loses nothing exactly when its selectors do not. It has no
capabilities and no constraints that could lose something. -/
theorem RawOwnershipTransitionResourceType.faithful :
    Faithful (Respelled readDateTime) RawOwnershipTransitionResourceType.fromTree
      RawOwnershipTransitionResourceType.toValue RawOwnershipTransitionResourceType.Plain := by
  refine RawOwnershipTransitionResourceType.shape.faithful (by decide) _
    fun tree resourceType accepted => ?_
  simp only [RawOwnershipTransitionResourceType.fromTree, Option.bind_eq_bind,
    Option.bind_eq_some_iff, Option.pure_def, Option.some.injEq] at accepted
  obtain ⟨members, opened, all, readAll, allow, readAllow, deny, readDeny, rfl⟩ := accepted
  exact ⟨members, _, opened, rfl, rfl,
    .cons (required_field (bool_faithful _) (by decide) readAll) <|
    .cons (optional_field (vec_faithful RawOwnershipTransitionSelector.faithful) (by decide)
      readAllow) <|
    .cons (optional_field (vec_faithful RawOwnershipTransitionSelector.faithful) (by decide)
      readDeny) .nil⟩

/-- The types of a transition lose nothing exactly when no name is repeated. The map keeps one
value for each name, the last one. -/
theorem RawOwnershipTransitionResourceScope.faithful :
    Faithful (Respelled readDateTime) RawOwnershipTransitionResourceScope.fromTree
      RawOwnershipTransitionResourceScope.toValue RawOwnershipTransitionResourceScope.Plain := by
  refine RawOwnershipTransitionResourceScope.shape.faithful (by decide) _
    fun tree scope accepted => ?_
  simp only [RawOwnershipTransitionResourceScope.fromTree, Option.bind_eq_bind,
    Option.bind_eq_some_iff, Option.pure_def, Option.some.injEq] at accepted
  obtain ⟨members, opened, types, readTypes, rfl⟩ := accepted
  exact ⟨members, _, opened, rfl, rfl,
    .cons (required_field (types_faithful _ _ RawOwnershipTransitionResourceType.faithful)
      (by decide) readTypes) .nil⟩

/-- The window of a transition loses nothing but the spelling of its time stamps. -/
theorem RawOwnershipTransitionTimeWindow.faithful :
    Faithful (Respelled readDateTime) (RawOwnershipTransitionTimeWindow.fromTree readDateTime)
      RawOwnershipTransitionTimeWindow.toValue RawOwnershipTransitionTimeWindow.Plain := by
  refine RawOwnershipTransitionTimeWindow.shape.faithful (by decide) _
    fun tree window accepted => ?_
  simp only [RawOwnershipTransitionTimeWindow.fromTree, Option.bind_eq_bind,
    Option.bind_eq_some_iff, Option.pure_def, Option.some.injEq] at accepted
  obtain ⟨members, opened, notBefore, readNotBefore, notAfter, readNotAfter, rfl⟩ := accepted
  exact ⟨members, _, opened, rfl, rfl,
    .cons (time_stamp_field (by decide) readNotBefore) <|
    .cons (time_stamp_field (by decide) readNotAfter) .nil⟩

/-- The constraints of a transition lose what their window loses. -/
theorem RawOwnershipTransitionGlobalConstraints.faithful :
    Faithful (Respelled readDateTime)
      (RawOwnershipTransitionGlobalConstraints.fromTree readDateTime)
      RawOwnershipTransitionGlobalConstraints.toValue
      RawOwnershipTransitionGlobalConstraints.Plain := by
  refine RawOwnershipTransitionGlobalConstraints.shape.faithful (by decide) _
    fun tree constraints accepted => ?_
  simp only [RawOwnershipTransitionGlobalConstraints.fromTree, Option.bind_eq_bind,
    Option.bind_eq_some_iff, Option.pure_def, Option.some.injEq] at accepted
  obtain ⟨members, opened, time, readTime, rfl⟩ := accepted
  exact ⟨members, _, opened, rfl, rfl,
    .cons (optional_field RawOwnershipTransitionTimeWindow.faithful (by decide) readTime) .nil⟩

/-- A signature loses nothing. -/
theorem RawOwnershipTransitionSignature.faithful :
    Faithful (Respelled readDateTime) RawOwnershipTransitionSignature.fromTree
      RawOwnershipTransitionSignature.toValue RawOwnershipTransitionSignature.Plain := by
  refine RawOwnershipTransitionSignature.shape.faithful (by decide) _ fun tree proof accepted => ?_
  simp only [RawOwnershipTransitionSignature.fromTree, Option.bind_eq_bind, Option.bind_eq_some_iff,
    Option.pure_def, Option.some.injEq] at accepted
  obtain ⟨members, opened, keyId, readKeyId, signature, readSignature, rfl⟩ := accepted
  exact ⟨members, _, opened, rfl, rfl,
    .cons (required_field (string_faithful _) (by decide) readKeyId) <|
    .cons (required_field (string_faithful _) (by decide) readSignature) .nil⟩

/-- An acceptance loses nothing but the spelling of its time. The key and the signature are texts
and are kept as they are. -/
theorem RawOwnershipTransitionAcceptance.faithful :
    Faithful (Respelled readDateTime) (RawOwnershipTransitionAcceptance.fromTree readDateTime)
      RawOwnershipTransitionAcceptance.toValue RawOwnershipTransitionAcceptance.Plain := by
  refine RawOwnershipTransitionAcceptance.shape.faithful (by decide) _
    fun tree acceptance accepted => ?_
  simp only [RawOwnershipTransitionAcceptance.fromTree, Option.bind_eq_bind,
    Option.bind_eq_some_iff, Option.pure_def, Option.some.injEq] at accepted
  obtain ⟨members, opened, acceptedAt, readAcceptedAt, keyId, readKeyId, signature,
    readSignature, rfl⟩ := accepted
  exact ⟨members, _, opened, rfl, rfl,
    .cons (time_stamp_field (by decide) readAcceptedAt) <|
    .cons (required_field (string_faithful _) (by decide) readKeyId) <|
    .cons (required_field (string_faithful _) (by decide) readSignature) .nil⟩

/-- A transition that was read says the same when it is written again exactly when it was
plain. -/
theorem RawOwnershipTransitionDocument.faithful :
    Faithful (Respelled readDateTime) (RawOwnershipTransitionDocument.fromTree readDateTime)
      RawOwnershipTransitionDocument.toValue RawOwnershipTransitionDocument.Plain := by
  refine RawOwnershipTransitionDocument.shape.faithful (by decide) _
    fun tree document accepted => ?_
  obtain ⟨members, opened, accepted⟩ := Option.bind_eq_some_iff.mp accepted
  obtain ⟨transitionId, readTransitionId, accepted⟩ := Option.bind_eq_some_iff.mp accepted
  obtain ⟨version, readVersion, accepted⟩ := Option.bind_eq_some_iff.mp accepted
  obtain ⟨transitionSeriesId, readTransitionSeriesId, accepted⟩ :=
    Option.bind_eq_some_iff.mp accepted
  obtain ⟨revision, readRevision, accepted⟩ := Option.bind_eq_some_iff.mp accepted
  obtain ⟨supersedesTransitionId, readSupersedesTransitionId, accepted⟩ :=
    Option.bind_eq_some_iff.mp accepted
  obtain ⟨originAuthority, readOriginAuthority, accepted⟩ := Option.bind_eq_some_iff.mp accepted
  obtain ⟨fromAuthority, readFromAuthority, accepted⟩ := Option.bind_eq_some_iff.mp accepted
  obtain ⟨toAuthority, readToAuthority, accepted⟩ := Option.bind_eq_some_iff.mp accepted
  obtain ⟨canonicalResourceScope, readCanonicalResourceScope, accepted⟩ :=
    Option.bind_eq_some_iff.mp accepted
  obtain ⟨globalConstraints, readGlobalConstraints, accepted⟩ := Option.bind_eq_some_iff.mp accepted
  obtain ⟨effectiveAt, readEffectiveAt, accepted⟩ := Option.bind_eq_some_iff.mp accepted
  obtain ⟨predecessorSignature, readPredecessorSignature, accepted⟩ :=
    Option.bind_eq_some_iff.mp accepted
  obtain ⟨successorAcceptance, readSuccessorAcceptance, accepted⟩ :=
    Option.bind_eq_some_iff.mp accepted
  cases accepted
  exact ⟨members, _, opened, rfl, rfl,
    .cons (required_field (string_faithful _) (by decide) readTransitionId) <|
    .cons (required_field (u8_faithful _) (by decide) readVersion) <|
    .cons (required_field (string_faithful _) (by decide) readTransitionSeriesId) <|
    .cons (required_field (u64_faithful _) (by decide) readRevision) <|
    .cons (optional_field (string_faithful _) (by decide) readSupersedesTransitionId) <|
    .cons (required_field (string_faithful _) (by decide) readOriginAuthority) <|
    .cons (required_field (string_faithful _) (by decide) readFromAuthority) <|
    .cons (required_field (string_faithful _) (by decide) readToAuthority) <|
    .cons (required_field RawOwnershipTransitionResourceScope.faithful (by decide)
      readCanonicalResourceScope) <|
    .cons (optional_field RawOwnershipTransitionGlobalConstraints.faithful (by decide)
      readGlobalConstraints) <|
    .cons (time_stamp_field (by decide) readEffectiveAt) <|
    .cons (required_field RawOwnershipTransitionSignature.faithful (by decide)
      readPredecessorSignature) <|
    .cons (required_field RawOwnershipTransitionAcceptance.faithful (by decide)
      readSuccessorAcceptance) .nil⟩

end Faithful

end TrustGrant
