import TrustGrant.Discovery.ReadDocuments
import TrustGrant.Revocation.ReadProof
import TrustGrant.Rust.SerdeOrder
import TrustGrant.Verify.StoredText

/-!
# Texts with rearranged members

Whoever writes a document may write the members of its objects in any order, and a signature
covers the canonical form of what was read. So everything that reads texts treats those whose
values are rearrangements of one another alike: the two verifiers, the readers of the documents
that are resolved, and the reader of what was stored.

The reader of every type is shown to look at members by their names only, so it reads
rearranged values alike. The size of a text is not a matter of its value, so it is asked
that both texts are on the same side of the limit.
-/

namespace TrustGrant

open Rust Rust.Serde Library JsonTree Limits

/-- Different names are different keys, so a rearrangement of types is one of keys. -/
theorem utf16_key_injective : Function.Injective Utf16Key.mk :=
  fun _ _ same => Utf16Key.mk.inj same

/-- A principal reads two strings by their names. This is all that the rule for structures asks:
every field is looked up by its name. -/
theorem RawPrincipal.order_free : OrderFree RawPrincipal.fromTree := by
  refine RawPrincipal.shape.order_free (fun _ => rfl) fun members others alike => ?_
  simp only [required_alike string_order_free alike]

/-- A selector reads its kind, its flag and two lists, whose items keep their places. -/
theorem RawSelector.order_free : OrderFree RawSelector.fromTree := by
  refine RawSelector.shape.order_free (fun _ => rfl) fun members others alike => ?_
  simp only [required_alike string_order_free alike, required_alike bool_order_free alike,
    optional_alike (vec_order_free string_order_free) alike]

/-- A scope reads lists of selectors, each of which may be rearranged in itself. The lists keep
the order of their items. -/
theorem RawScope.order_free : OrderFree RawScope.fromTree := by
  refine RawScope.shape.order_free (fun _ => rfl) fun members others alike => ?_
  simp only [required_alike bool_order_free alike,
    optional_alike (vec_order_free RawSelector.order_free) alike]

/-- Grant capabilities ignore unknown members, in whatever place they stand. -/
theorem RawCapabilities.order_free : OrderFree RawCapabilities.fromTree := by
  refine RawCapabilities.shape.order_free (fun _ => rfl) fun members others alike => ?_
  simp only [required_alike bool_order_free alike]

/-- An audience entry nests two scopes. -/
theorem RawAudienceEntry.order_free : OrderFree RawAudienceEntry.fromTree := by
  refine RawAudienceEntry.shape.order_free (fun _ => rfl) fun members others alike => ?_
  simp only [required_alike string_order_free alike, required_alike RawScope.order_free alike,
    optional_alike RawScope.order_free alike]

/-- Type capabilities ignore unknown members, and both of theirs are optional. -/
theorem RawTypeCapabilities.order_free : OrderFree RawTypeCapabilities.fromTree := by
  refine RawTypeCapabilities.shape.order_free (fun _ => rfl) fun members others alike => ?_
  simp only [optional_alike bool_order_free alike]

/-- Minting limits ignore unknown members, and both of theirs are optional. -/
theorem RawMintingConstraints.order_free : OrderFree RawMintingConstraints.fromTree := by
  refine RawMintingConstraints.shape.order_free (fun _ => rfl) fun members others alike => ?_
  simp only [optional_alike u64_order_free alike]

/-- Type constraints nest the limits and the audience of the type. Both were shown to be read
alike. -/
theorem RawTypeConstraints.order_free : OrderFree RawTypeConstraints.fromTree := by
  refine RawTypeConstraints.shape.order_free (fun _ => rfl) fun members others alike => ?_
  simp only [required_alike RawMintingConstraints.order_free alike,
    optional_alike (vec_order_free RawAudienceEntry.order_free) alike]

/-- An operation scope reads two lists of names. -/
theorem RawOperationScope.order_free : OrderFree RawOperationScope.fromTree := by
  refine RawOperationScope.shape.order_free (fun _ => rfl) fun members others alike => ?_
  simp only [optional_alike (vec_order_free string_order_free) alike]

/-- A resource type nests everything that it narrows. Its members are looked up by name like
those of any structure. -/
theorem RawResourceType.order_free : OrderFree RawResourceType.fromTree := by
  refine RawResourceType.shape.order_free (fun _ => rfl) fun members others alike => ?_
  simp only [required_alike bool_order_free alike,
    optional_alike (vec_order_free RawSelector.order_free) alike,
    required_alike RawTypeCapabilities.order_free alike,
    required_alike RawTypeConstraints.order_free alike,
    optional_alike RawOperationScope.order_free alike]

/-- The types are a map from their names, and reading a map does not depend on the order either,
because types of one name keep theirs. -/
theorem RawResourceScope.order_free : OrderFree RawResourceScope.fromTree := by
  refine RawResourceScope.shape.order_free (fun _ => rfl) fun members others alike => ?_
  simp only [required_alike (map_order_free utf16_key_injective RawResourceType.order_free) alike]

/-- A profile reads its name and its version. -/
theorem InteroperabilityProfile.order_free : OrderFree InteroperabilityProfile.fromTree := by
  refine InteroperabilityProfile.shape.order_free (fun _ => rfl) fun members others alike => ?_
  simp only [required_alike string_order_free alike, required_alike u64_order_free alike]

/-- A revocation policy reads the name of its effect. A name given as an object has one member,
so it has no other arrangement. -/
theorem RawRevocation.order_free : OrderFree RawRevocation.fromTree := by
  refine RawRevocation.shape.order_free (fun _ => rfl) fun members others alike => ?_
  simp only [required_alike bool_order_free alike, required_alike string_order_free alike,
    required_alike (variant_order_free PostRevocationEffect.variants) alike]

/-- A selector of a transition is read as a selector of a grant is. -/
theorem RawOwnershipTransitionSelector.order_free :
    OrderFree RawOwnershipTransitionSelector.fromTree := by
  refine RawOwnershipTransitionSelector.shape.order_free (fun _ => rfl)
    fun members others alike => ?_
  simp only [required_alike string_order_free alike, required_alike bool_order_free alike,
    optional_alike (vec_order_free string_order_free) alike]

/-- A resource type of a transition has a scope and nothing else. -/
theorem RawOwnershipTransitionResourceType.order_free :
    OrderFree RawOwnershipTransitionResourceType.fromTree := by
  refine RawOwnershipTransitionResourceType.shape.order_free (fun _ => rfl)
    fun members others alike => ?_
  simp only [required_alike bool_order_free alike,
    optional_alike (vec_order_free RawOwnershipTransitionSelector.order_free) alike]

/-- The types of a transition are a map as well. A repeated name keeps its values in their order,
so the last one is the same. -/
theorem RawOwnershipTransitionResourceScope.order_free :
    OrderFree RawOwnershipTransitionResourceScope.fromTree := by
  refine RawOwnershipTransitionResourceScope.shape.order_free (fun _ => rfl)
    fun members others alike => ?_
  simp only [
    required_alike (map_order_free utf16_key_injective
      RawOwnershipTransitionResourceType.order_free) alike]

/-- A signature reads its key and its text. -/
theorem RawOwnershipTransitionSignature.order_free :
    OrderFree RawOwnershipTransitionSignature.fromTree := by
  refine RawOwnershipTransitionSignature.shape.order_free (fun _ => rfl)
    fun members others alike => ?_
  simp only [required_alike string_order_free alike]

/-- A signature profile reads two names. They are texts here and are checked when the document is
normalized. -/
theorem RawSignatureProfile.order_free : OrderFree RawSignatureProfile.fromTree := by
  refine RawSignatureProfile.shape.order_free (fun _ => rfl) fun members others alike => ?_
  simp only [required_alike string_order_free alike]

/-- The revocation policy of a discovery document reads an endpoint and two numbers. The numbers
are periods in seconds. -/
theorem RawRevocationPolicy.order_free : OrderFree RawRevocationPolicy.fromTree := by
  refine RawRevocationPolicy.shape.order_free (fun _ => rfl) fun members others alike => ?_
  simp only [required_alike string_order_free alike, required_alike u64_order_free alike]

/-- A delegation reads whether it is supported and where its keys are. -/
theorem RawDelegation.order_free : OrderFree RawDelegation.fromTree := by
  refine RawDelegation.shape.order_free (fun _ => rfl) fun members others alike => ?_
  simp only [required_alike bool_order_free alike, required_alike string_order_free alike]

/-- A principal that keys are delegated to reads two strings. -/
theorem RawDelegatedPrincipal.order_free : OrderFree RawDelegatedPrincipal.fromTree := by
  refine RawDelegatedPrincipal.shape.order_free (fun _ => rfl) fun members others alike => ?_
  simp only [required_alike string_order_free alike]

/-- A stored selector requires all of its fields. A missing one is missing in every
arrangement. -/
theorem SelectorRecord.order_free : OrderFree SelectorRecord.fromTree := by
  refine SelectorRecord.shape.order_free (fun _ => rfl) fun members others alike => ?_
  simp only [required_alike string_order_free alike, required_alike bool_order_free alike,
    required_alike (vec_order_free string_order_free) alike]

/-- A stored scope requires both of its lists. -/
theorem ScopeRecord.order_free : OrderFree ScopeRecord.fromTree := by
  refine ScopeRecord.shape.order_free (fun _ => rfl) fun members others alike => ?_
  simp only [required_alike bool_order_free alike,
    required_alike (vec_order_free SelectorRecord.order_free) alike]

/-- Stored capabilities are two booleans. -/
theorem CapabilitiesRecord.order_free : OrderFree CapabilitiesRecord.fromTree := by
  refine CapabilitiesRecord.shape.order_free (fun _ => rfl) fun members others alike => ?_
  simp only [required_alike bool_order_free alike]

/-- A stored audience entry may lack its scope of principals. A missing one and a null one are
read alike. -/
theorem AudienceEntryRecord.order_free : OrderFree AudienceEntryRecord.fromTree := by
  refine AudienceEntryRecord.shape.order_free (fun _ => rfl) fun members others alike => ?_
  simp only [required_alike string_order_free alike, required_alike ScopeRecord.order_free alike,
    optional_alike ScopeRecord.order_free alike]

/-- Stored type capabilities are two optional booleans. -/
theorem TypeCapabilitiesRecord.order_free : OrderFree TypeCapabilitiesRecord.fromTree := by
  refine TypeCapabilitiesRecord.shape.order_free (fun _ => rfl) fun members others alike => ?_
  simp only [optional_alike bool_order_free alike]

/-- Stored minting limits are two optional numbers. -/
theorem MintingConstraintsRecord.order_free : OrderFree MintingConstraintsRecord.fromTree := by
  refine MintingConstraintsRecord.shape.order_free (fun _ => rfl) fun members others alike => ?_
  simp only [optional_alike u64_order_free alike]

/-- Stored type constraints require both of their parts. -/
theorem TypeConstraintsRecord.order_free : OrderFree TypeConstraintsRecord.fromTree := by
  refine TypeConstraintsRecord.shape.order_free (fun _ => rfl) fun members others alike => ?_
  simp only [required_alike MintingConstraintsRecord.order_free alike,
    required_alike (vec_order_free AudienceEntryRecord.order_free) alike]

/-- A stored operation scope requires both of its lists. -/
theorem OperationScopeRecord.order_free : OrderFree OperationScopeRecord.fromTree := by
  refine OperationScopeRecord.shape.order_free (fun _ => rfl) fun members others alike => ?_
  simp only [required_alike (vec_order_free string_order_free) alike]

/-- A stored resource type may lack its scope of operations only. The other members are
required. -/
theorem ResourceTypeRecord.order_free : OrderFree ResourceTypeRecord.fromTree := by
  refine ResourceTypeRecord.shape.order_free (fun _ => rfl) fun members others alike => ?_
  simp only [required_alike bool_order_free alike,
    required_alike (vec_order_free SelectorRecord.order_free) alike,
    required_alike TypeCapabilitiesRecord.order_free alike,
    required_alike TypeConstraintsRecord.order_free alike,
    optional_alike OperationScopeRecord.order_free alike]

/-- A stored revocation policy reads the name of its effect. -/
theorem RevocationPolicyRecord.order_free : OrderFree RevocationPolicyRecord.fromTree := by
  refine RevocationPolicyRecord.shape.order_free (fun _ => rfl) fun members others alike => ?_
  simp only [required_alike bool_order_free alike, required_alike string_order_free alike,
    required_alike (variant_order_free PostRevocationEffect.variants) alike]

/-- A stored principal is two strings. -/
theorem PrincipalRecord.order_free : OrderFree PrincipalRecord.fromTree := by
  refine PrincipalRecord.shape.order_free (fun _ => rfl) fun members others alike => ?_
  simp only [required_alike string_order_free alike]

/-- A stored signature profile is two strings. -/
theorem SignatureProfileRecord.order_free : OrderFree SignatureProfileRecord.fromTree := by
  refine SignatureProfileRecord.shape.order_free (fun _ => rfl) fun members others alike => ?_
  simp only [required_alike string_order_free alike]

section TimeStamps

variable (readDateTime : String → Option DateTime)

/-- A time window reads two texts as time stamps. -/
theorem RawTimeWindow.order_free : OrderFree (RawTimeWindow.fromTree readDateTime) := by
  refine RawTimeWindow.shape.order_free (fun _ => rfl) fun members others alike => ?_
  simp only [required_alike (text_order_free readDateTime) alike]

/-- The constraints of a grant may have a time window. -/
theorem RawGlobalConstraints.order_free :
    OrderFree (RawGlobalConstraints.fromTree readDateTime) := by
  refine RawGlobalConstraints.shape.order_free (fun _ => rfl) fun members others alike => ?_
  simp only [optional_alike (RawTimeWindow.order_free readDateTime) alike]

/-- A grant is read alike however its members are arranged at any depth: each of its readers has
this property, and a structure looks its fields up by name. -/
theorem RawTrustGrantDocument.order_free :
    OrderFree (RawTrustGrantDocument.fromTree readDateTime) := by
  refine RawTrustGrantDocument.shape.order_free (fun _ => rfl) fun members others alike => ?_
  simp only [required_alike string_order_free alike, required_alike u8_order_free alike,
    required_alike u64_order_free alike, optional_alike string_order_free alike,
    required_alike (variant_order_free RawSupersessionPolicy.variants) alike,
    required_alike RawScope.order_free alike, required_alike RawCapabilities.order_free alike,
    optional_alike (vec_order_free RawAudienceEntry.order_free) alike,
    required_alike RawResourceScope.order_free alike,
    optional_alike (RawGlobalConstraints.order_free readDateTime) alike,
    optional_alike RawRevocation.order_free alike,
    required_alike (text_order_free readDateTime) alike,
    optional_alike RawPrincipal.order_free alike,
    optional_alike InteroperabilityProfile.order_free alike]

/-- The time window of a transition reads two time stamps. -/
theorem RawOwnershipTransitionTimeWindow.order_free :
    OrderFree (RawOwnershipTransitionTimeWindow.fromTree readDateTime) := by
  refine RawOwnershipTransitionTimeWindow.shape.order_free (fun _ => rfl)
    fun members others alike => ?_
  simp only [required_alike (text_order_free readDateTime) alike]

/-- The constraints of a transition may have a time window. -/
theorem RawOwnershipTransitionGlobalConstraints.order_free :
    OrderFree (RawOwnershipTransitionGlobalConstraints.fromTree readDateTime) := by
  refine RawOwnershipTransitionGlobalConstraints.shape.order_free (fun _ => rfl)
    fun members others alike => ?_
  simp only [optional_alike (RawOwnershipTransitionTimeWindow.order_free readDateTime) alike]

/-- An acceptance reads its time, its key and its signature. -/
theorem RawOwnershipTransitionAcceptance.order_free :
    OrderFree (RawOwnershipTransitionAcceptance.fromTree readDateTime) := by
  refine RawOwnershipTransitionAcceptance.shape.order_free (fun _ => rfl)
    fun members others alike => ?_
  simp only [required_alike (text_order_free readDateTime) alike,
    required_alike string_order_free alike]

/-- A transition is read alike however its members are arranged at any depth. Each field is
looked up by its name, and each reader of a field is order-free itself. -/
theorem RawOwnershipTransitionDocument.order_free :
    OrderFree (RawOwnershipTransitionDocument.fromTree readDateTime) := by
  refine RawOwnershipTransitionDocument.shape.order_free (fun _ => rfl)
    fun members others alike => ?_
  simp only [required_alike string_order_free alike, required_alike u8_order_free alike,
    required_alike u64_order_free alike, optional_alike string_order_free alike,
    required_alike RawOwnershipTransitionResourceScope.order_free alike,
    optional_alike (RawOwnershipTransitionGlobalConstraints.order_free readDateTime) alike,
    required_alike (text_order_free readDateTime) alike,
    required_alike RawOwnershipTransitionSignature.order_free alike,
    required_alike (RawOwnershipTransitionAcceptance.order_free readDateTime) alike]

/-- The fields that both kinds of key records have are read alike. So the two readers share this
part. -/
theorem RawDiscoveryKeyRecord.fill_alike {members others : List (String × JsonTree)}
    (alike : MembersAlike members others) :
    RawDiscoveryKeyRecord.fill readDateTime members =
      RawDiscoveryKeyRecord.fill readDateTime others := by
  simp only [RawDiscoveryKeyRecord.fill,  required_alike string_order_free alike,
    required_alike (text_order_free readDateTime) alike]

/-- A key record of an authority is read alike. -/
theorem RawDiscoveryKeyRecord.order_free :
    OrderFree (RawDiscoveryKeyRecord.fromTree readDateTime) := by
  refine RawDiscoveryKeyRecord.shape.order_free (fun _ => rfl) fun members others alike => ?_
  exact RawDiscoveryKeyRecord.fill_alike readDateTime alike

/-- A discovery document is read alike, key by key. The keys are a list, whose order does matter;
the members of each do not. -/
theorem RawAuthorityDiscoveryDocument.order_free :
    OrderFree (RawAuthorityDiscoveryDocument.fromTree readDateTime) := by
  refine RawAuthorityDiscoveryDocument.shape.order_free (fun _ => rfl)
    fun members others alike => ?_
  simp only [required_alike string_order_free alike,
    required_alike (vec_order_free (RawDiscoveryKeyRecord.order_free readDateTime)) alike,
    required_alike RawSignatureProfile.order_free alike,
    optional_alike RawRevocationPolicy.order_free alike,
    optional_alike (vec_order_free string_order_free) alike,
    required_alike (text_order_free readDateTime) alike,
    optional_alike RawDelegation.order_free alike]

/-- A key record of a principal is read alike; it has one field more. -/
theorem RawDelegatedKeyRecord.order_free :
    OrderFree (RawDelegatedKeyRecord.fromTree readDateTime) := by
  refine RawDelegatedKeyRecord.shape.order_free (fun _ => rfl) fun members others alike => ?_
  simp only [RawDiscoveryKeyRecord.fill_alike readDateTime alike,
    required_alike bool_order_free alike]

/-- A document about the keys of a principal is read alike, key by key. -/
theorem RawDelegatedPrincipalKeyDocument.order_free :
    OrderFree (RawDelegatedPrincipalKeyDocument.fromTree readDateTime) := by
  refine RawDelegatedPrincipalKeyDocument.shape.order_free (fun _ => rfl)
    fun members others alike => ?_
  simp only [required_alike string_order_free alike,
    required_alike RawDelegatedPrincipal.order_free alike,
    required_alike (vec_order_free (RawDelegatedKeyRecord.order_free readDateTime)) alike]

/-- A revocation proof is read alike. -/
theorem RawRevocationStatusProof.order_free :
    OrderFree (RawRevocationStatusProof.fromTree readDateTime) := by
  refine RawRevocationStatusProof.shape.order_free (fun _ => rfl) fun members others alike => ?_
  simp only [required_alike string_order_free alike,
    required_alike (variant_order_free RawRevocationStatus.variants) alike,
    required_alike (text_order_free readDateTime) alike]

/-- A stored time window requires both of its ends. -/
theorem TimeWindowRecord.order_free : OrderFree (TimeWindowRecord.fromTree readDateTime) := by
  refine TimeWindowRecord.shape.order_free (fun _ => rfl) fun members others alike => ?_
  simp only [required_alike (text_order_free readDateTime) alike]

/-- A stored document is read alike. Its types are a map from texts that are compared as they
are. -/
theorem NormalizedTrustGrantDocumentRecord.order_free :
    OrderFree (NormalizedTrustGrantDocumentRecord.fromTree readDateTime) := by
  refine NormalizedTrustGrantDocumentRecord.shape.order_free (fun _ => rfl)
    fun members others alike => ?_
  simp only [required_alike string_order_free alike, required_alike u64_order_free alike,
    optional_alike string_order_free alike,
    required_alike (variant_order_free SupersessionPolicyRecord.variants) alike,
    required_alike ScopeRecord.order_free alike, required_alike CapabilitiesRecord.order_free alike,
    required_alike (vec_order_free AudienceEntryRecord.order_free) alike,
    required_alike (map_order_free Function.injective_id ResourceTypeRecord.order_free) alike,
    optional_alike (TimeWindowRecord.order_free readDateTime) alike,
    optional_alike RevocationPolicyRecord.order_free alike,
    required_alike (text_order_free readDateTime) alike,
    optional_alike PrincipalRecord.order_free alike,
    optional_alike InteroperabilityProfile.order_free alike]

/-- A stored signing key is read alike. -/
theorem AuthorityKeyRecordRecord.order_free :
    OrderFree (AuthorityKeyRecordRecord.fromTree readDateTime) := by
  refine AuthorityKeyRecordRecord.shape.order_free (fun _ => rfl) fun members others alike => ?_
  simp only [required_alike string_order_free alike,
    required_alike (text_order_free readDateTime) alike]

/-- A stored signer binding may lack the principal. -/
theorem ResolvedSignerBindingRecord.order_free :
    OrderFree (ResolvedSignerBindingRecord.fromTree readDateTime) := by
  refine ResolvedSignerBindingRecord.shape.order_free (fun _ => rfl) fun members others alike => ?_
  simp only [required_alike string_order_free alike,
    required_alike (AuthorityKeyRecordRecord.order_free readDateTime) alike,
    required_alike SignatureProfileRecord.order_free alike,
    optional_alike PrincipalRecord.order_free alike]

/-- A stored ownership record may lack the end of the chain. The other members are required, and
all are looked up by name. -/
theorem OwnershipVerificationRecordRecord.order_free :
    OrderFree (OwnershipVerificationRecordRecord.fromTree readDateTime) := by
  refine OwnershipVerificationRecordRecord.shape.order_free (fun _ => rfl)
    fun members others alike => ?_
  simp only [required_alike string_order_free alike,
    required_alike (text_order_free readDateTime) alike,
    required_alike (variant_order_free OwnershipProofKind.variants) alike,
    optional_alike string_order_free alike]

/-- A stored revocation record ignores unknown members, in whatever place they stand. It is the
only stored type that does. -/
theorem RevocationRecord.order_free : OrderFree (RevocationRecord.fromTree readDateTime) := by
  refine RevocationRecord.shape.order_free (fun _ => rfl) fun members others alike => ?_
  simp only [required_alike (variant_order_free RevocationStatus.variants) alike,
    required_alike (variant_order_free RevocationSourceKind.variants) alike,
    required_alike (variant_order_free ProofFinality.variants) alike,
    required_alike (text_order_free readDateTime) alike]

/-- A revocation state as an object has one member: the variant without data with null, or the
checked one with its record. -/
theorem VerifiedRevocationState.from_single (member : String × JsonTree) :
    VerifiedRevocationState.fromTree readDateTime (.object [member]) =
      if member.1 = "non_revocable" then
        if member.2.isNull then some .nonRevocable else none
      else if member.1 = "checked" then
        (RevocationRecord.fromTree readDateTime member.2).map .checked
      else none := by
  obtain ⟨name, tree⟩ := member
  by_cases isNonRevocable : name = "non_revocable"
  · subst isNonRevocable
    rw [if_pos rfl]
    cases tree <;> rfl
  · rw [if_neg isNonRevocable]
    by_cases isChecked : name = "checked"
    · subst isChecked
      rw [if_pos rfl]
      rfl
    · rw [if_neg isChecked]
      unfold VerifiedRevocationState.fromTree
      split
      · rename_i isString
        cases isString
      · rename_i isObject
        cases isObject
        exact absurd rfl isNonRevocable
      · rename_i isObject
        cases isObject
        exact absurd rfl isChecked
      · rfl

/-- An object with no member or with several is no revocation state. It is a variant with data,
whose name is the one member. -/
theorem VerifiedRevocationState.from_otherwise (members : List (String × JsonTree))
    (notAlone : members.length ≠ 1) :
    VerifiedRevocationState.fromTree readDateTime (.object members) = none := by
  unfold VerifiedRevocationState.fromTree
  split
  · rename_i isString
    cases isString
  · rename_i isObject
    cases isObject
    exact absurd rfl notAlone
  · rename_i isObject
    cases isObject
    exact absurd rfl notAlone
  · rfl

/-- An object with one member has no other arrangement but those of its value. So the variant is
the same, and its record is read alike. -/
theorem VerifiedRevocationState.order_free :
    OrderFree (VerifiedRevocationState.fromTree readDateTime) := by
  intro tree other rearranged
  cases rearranged with
  | same => rfl
  | array => rfl
  | object members others paired =>
    refine single_order_free (fun member counterpart sameName rearranged => ?_)
      (VerifiedRevocationState.from_otherwise readDateTime) paired
    rw [VerifiedRevocationState.from_single, VerifiedRevocationState.from_single, sameName,
      rearranged.is_null, RevocationRecord.order_free readDateTime _ _ rearranged]

/-- Stored metadata are read alike, part by part. The parts are the records that were treated
before. -/
theorem VerificationMetadataRecord.order_free :
    OrderFree (VerificationMetadataRecord.fromTree readDateTime) := by
  refine VerificationMetadataRecord.shape.order_free (fun _ => rfl) fun members others alike => ?_
  simp only [required_alike (text_order_free readDateTime) alike,
    required_alike (variant_order_free VerificationPosture.variants) alike,
    required_alike (ResolvedSignerBindingRecord.order_free readDateTime) alike,
    required_alike (OwnershipVerificationRecordRecord.order_free readDateTime) alike,
    required_alike (VerifiedRevocationState.order_free readDateTime) alike]

/-- A stored grant is read alike however its members are arranged at any depth. Its parts were
treated one by one above. -/
theorem VerifiedTrustGrantRecord.order_free :
    OrderFree (VerifiedTrustGrantRecord.fromTree readDateTime) := by
  refine VerifiedTrustGrantRecord.shape.order_free (fun _ => rfl) fun members others alike => ?_
  simp only [required_alike u16_order_free alike,
    required_alike (NormalizedTrustGrantDocumentRecord.order_free readDateTime) alike,
    required_alike (VerificationMetadataRecord.order_free readDateTime) alike]

/-- Two texts are read as one value when one is a rearrangement of the other. The parser of JSON
gives the two trees, and the reader does not tell them apart. -/
theorem read_from_rearranged {α : Type} {read : JsonTree → Option α} (law : OrderFree read)
    {first second : Option JsonTree} (rearranged : Option.Rel Rearranged first second) :
    first.bind read = second.bind read := by
  cases rearranged with
  | none => rfl
  | some rearranged => exact law _ _ rearranged

end TimeStamps

/-- `OwnershipTransitionVerifier::verify_json_str` -/
def verifyTransitionJsonStr (mapping : Text.CaseMapping)
    (fromStr : String → Option RawOwnershipTransitionDocument) (json : String)
    (verifier : SignatureVerifier) (discoverySource : AuthorityDiscoverySource)
    (context : VerificationContext) : Except TrustGrantError VerifiedOwnershipTransition := do
  let rawDocument ← RawOwnershipTransitionDocument.parseJsonStr fromStr json
  verifyRawTransition mapping rawDocument verifier discoverySource context

/-- Both texts are within a limit, or neither is. Blanks between members count for the size of a
text, though not for its value. -/
def SameSide (limit : Nat) (json other : String) : Prop :=
  Text.len json ≤ limit ↔ Text.len other ≤ limit

/-- Texts on the same side of a limit pass its check alike. The number of bytes itself may
differ. -/
theorem size_alike {limit : Nat} {json other : String} (sameSide : SameSide limit json other)
    (document : String) :
    ensureJsonSize document (Text.len json) limit =
      ensureJsonSize document (Text.len other) limit := by
  have sameRejection : Text.len json > limit ↔ Text.len other > limit := by
    rw [gt_iff_lt, gt_iff_lt, ← not_le, ← not_le]
    exact not_congr sameSide
  unfold ensureJsonSize Results.rejectIf
  simp only [sameRejection]

/-- Two texts are the same to everything that reads them. Each field is about one reader or
verifier, and asks that both texts are on the same side of its limit. -/
structure ReadAlike (mapping : Text.CaseMapping) (readDateTime : String → Option DateTime)
    (parse : String → Option JsonTree) (json other : String) : Prop where
  grant : SameSide maxTrustgrantJsonBytes json other → ∀ verifier sources context,
    verifyJsonStrWithSources mapping (RawTrustGrantDocument.fromStr readDateTime parse) json
        verifier sources context =
      verifyJsonStrWithSources mapping (RawTrustGrantDocument.fromStr readDateTime parse) other
        verifier sources context
  transition : SameSide maxOwnershipTransitionJsonBytes json other →
    ∀ verifier discoverySource context,
      verifyTransitionJsonStr mapping (RawOwnershipTransitionDocument.fromStr readDateTime parse)
          json verifier discoverySource context =
        verifyTransitionJsonStr mapping
          (RawOwnershipTransitionDocument.fromStr readDateTime parse) other verifier
          discoverySource context
  discovery : SameSide maxDiscoveryJsonBytes json other →
    parseAuthorityDiscoveryDocument mapping
        (RawAuthorityDiscoveryDocument.fromStr readDateTime parse) json =
      parseAuthorityDiscoveryDocument mapping
        (RawAuthorityDiscoveryDocument.fromStr readDateTime parse) other
  delegated : SameSide maxDelegatedPrincipalJsonBytes json other →
    parseDelegatedPrincipalKeyDocument mapping
        (RawDelegatedPrincipalKeyDocument.fromStr readDateTime parse) json =
      parseDelegatedPrincipalKeyDocument mapping
        (RawDelegatedPrincipalKeyDocument.fromStr readDateTime parse) other
  revocation : SameSide maxRevocationProofJsonBytes json other →
    parseRevocationStatusProof (RawRevocationStatusProof.fromStr readDateTime parse) json =
      parseRevocationStatusProof (RawRevocationStatusProof.fromStr readDateTime parse) other
  record : VerifiedTrustGrantRecord.fromStr readDateTime parse json =
    VerifiedTrustGrantRecord.fromStr readDateTime parse other

/-- The order in which members are written is no part of a document: texts whose values are
rearrangements of one another are the same to the verification of grants and of transitions, to
the readers of discovery documents, of delegated keys and of revocation proofs, and to the reader
of stored records. So a signature is valid for every arrangement of what was signed.

Proof: the reader of every type looks at the members of an object by name, so it does not tell
rearranged values apart. The size of a text is checked before it is read and does depend on the
arrangement of blanks, so each part asks that both texts pass this check or neither does. -/
theorem rearranged_texts_read_alike (mapping : Text.CaseMapping)
    (readDateTime : String → Option DateTime) (parse : String → Option JsonTree)
    (json other : String) (rearranged : Option.Rel Rearranged (parse json) (parse other)) :
    ReadAlike mapping readDateTime parse json other where
  grant sameSide verifier sources context := by
    have read : RawTrustGrantDocument.fromStr readDateTime parse json =
        RawTrustGrantDocument.fromStr readDateTime parse other :=
      read_from_rearranged (RawTrustGrantDocument.order_free readDateTime) rearranged
    rw [verifyJsonStrWithSources, verifyJsonStrWithSources, RawTrustGrantDocument.parseJsonStr,
      RawTrustGrantDocument.parseJsonStr, size_alike sameSide, read]
  transition sameSide verifier discoverySource context := by
    have read : RawOwnershipTransitionDocument.fromStr readDateTime parse json =
        RawOwnershipTransitionDocument.fromStr readDateTime parse other :=
      read_from_rearranged (RawOwnershipTransitionDocument.order_free readDateTime) rearranged
    rw [verifyTransitionJsonStr, verifyTransitionJsonStr,
      RawOwnershipTransitionDocument.parseJsonStr, RawOwnershipTransitionDocument.parseJsonStr,
      size_alike sameSide, read]
  discovery sameSide := by
    have read : RawAuthorityDiscoveryDocument.fromStr readDateTime parse json =
        RawAuthorityDiscoveryDocument.fromStr readDateTime parse other :=
      read_from_rearranged (RawAuthorityDiscoveryDocument.order_free readDateTime) rearranged
    rw [parseAuthorityDiscoveryDocument, parseAuthorityDiscoveryDocument,
      RawAuthorityDiscoveryDocument.parseJsonStr, RawAuthorityDiscoveryDocument.parseJsonStr,
      size_alike sameSide, read]
  delegated sameSide := by
    have read : RawDelegatedPrincipalKeyDocument.fromStr readDateTime parse json =
        RawDelegatedPrincipalKeyDocument.fromStr readDateTime parse other :=
      read_from_rearranged (RawDelegatedPrincipalKeyDocument.order_free readDateTime) rearranged
    rw [parseDelegatedPrincipalKeyDocument, parseDelegatedPrincipalKeyDocument,
      size_alike sameSide, read]
  revocation sameSide := by
    have read : RawRevocationStatusProof.fromStr readDateTime parse json =
        RawRevocationStatusProof.fromStr readDateTime parse other :=
      read_from_rearranged (RawRevocationStatusProof.order_free readDateTime) rearranged
    rw [parseRevocationStatusProof, parseRevocationStatusProof, size_alike sameSide, read]
  record := read_from_rearranged (VerifiedTrustGrantRecord.order_free readDateTime) rearranged

/-- The value with the members of its outermost object in reverse. -/
def reversedMembers : JsonTree → JsonTree
  | .object members => .object members.reverse
  | tree => tree

/-- The members of an object in reverse order are a rearrangement when no name is repeated. -/
theorem reversed_rearranged (members : List (String × JsonTree))
    (distinct : (members.map Prod.fst).Nodup) :
    Rearranged (.object members) (reversedMembers (.object members)) :=
  .object _ _ (alike_of_perm (List.reverse_perm members).symm distinct)

/-- What reads the transferred document and its reverse. -/
def readSmallArrangements : String → Option JsonTree :=
  readEitherText smallTransferred.toValue.toTree (reversedMembers smallTransferred.toValue.toTree)

/-- The transferred document is accepted with its members in reverse. Both texts are within the
size limit, which is the side condition on the rearranged text. -/
theorem small_reverse_accepted :
    ∃ artifacts, verifyJsonStrWithSources Text.asciiCaseMapping
      (RawTrustGrantDocument.fromStr readSmallInstant readSmallArrangements)
      (treeText (reversedMembers smallTransferred.toValue.toTree)) smallVerifier
      (smallSources [smallTransition]) smallContext = .ok artifacts := by
  have read : readSmallArrangements (treeText smallTransferred.toValue.toTree) =
      some smallTransferred.toValue.toTree := by
    rw [readSmallArrangements, readEitherText, read_tree_text, Option.some_or]
  have readToo : readSmallArrangements
      (treeText (reversedMembers smallTransferred.toValue.toTree)) =
        some (reversedMembers smallTransferred.toValue.toTree) := by
    have apart : readTreeText smallTransferred.toValue.toTree
        (treeText (reversedMembers smallTransferred.toValue.toTree)) = none := by
      rw [readTreeText, treeText, String.toList_ofList, if_neg (by decide +kernel)]
    rw [readSmallArrangements, readEitherText, apart, Option.none_or, read_tree_text]
  have short : Text.len (treeText smallTransferred.toValue.toTree) ≤ maxTrustgrantJsonBytes :=
    (Text.len_of_list_le _).trans (by decide +kernel)
  have shortToo : Text.len (treeText (reversedMembers smallTransferred.toValue.toTree)) ≤
      maxTrustgrantJsonBytes :=
    (Text.len_of_list_le _).trans (by decide +kernel)
  have parsed : RawTrustGrantDocument.parseJsonStr
      (RawTrustGrantDocument.fromStr readSmallInstant readSmallArrangements)
      (treeText smallTransferred.toValue.toTree) = .ok smallTransferred :=
    small_grant_parsed smallTransferred _ read (by decide +kernel) (by decide +kernel)
  have alike := rearranged_texts_read_alike Text.asciiCaseMapping readSmallInstant
    readSmallArrangements (treeText smallTransferred.toValue.toTree)
    (treeText (reversedMembers smallTransferred.toValue.toTree)) (by
      rw [read, readToo]
      exact .some (reversed_rearranged _ (by decide +kernel)))
  have accepted : verifyJsonStrWithSources Text.asciiCaseMapping
      (RawTrustGrantDocument.fromStr readSmallInstant readSmallArrangements)
      (treeText smallTransferred.toValue.toTree) smallVerifier (smallSources [smallTransition])
      smallContext = .ok (Results.valueOf _ small_transferred_accepted) :=
    (Results.bind_ok_iff _ _ _).mpr
      ⟨smallTransferred, parsed, Results.value_of_eq _ small_transferred_accepted⟩
  exact ⟨_, (alike.grant (iff_of_true short shortToo) _ _ _).symm.trans accepted⟩

end TrustGrant
