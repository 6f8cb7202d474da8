import TrustGrant.Rust.SerdeWriting
import TrustGrant.Verify.PublishedDocuments

/-!
# Writing wire documents and reading them back

Grants and ownership transitions are written as JSON and read again by whoever they are handed
to. What was written is read back as it was, whatever the document holds: the absent values are
null, the profile that is left out is absent, and the map of resource types keeps its keys. Only
a text beyond the limit is refused.

The rules for what serde writes give one lemma for each type. A text is within the limit or
it is refused, so the equivalence has no other condition.
-/

namespace TrustGrant

open Rust Rust.Serde Library Limits

/-- `RawTrustGrantDocument::to_json_string` -/
def RawTrustGrantDocument.toJsonString (document : RawTrustGrantDocument) : String :=
  treeText document.toValue.toTree

/-- `serde_json::to_string` of an ownership transition. -/
def RawOwnershipTransitionDocument.toJsonString (document : RawOwnershipTransitionDocument) :
    String :=
  treeText document.toValue.toTree

/-- The two ends of a window. -/
def RawTimeWindow.timeStamps (window : RawTimeWindow) : List DateTime :=
  [window.notBefore, window.notAfter]

/-- The ends of the window, if there is one. -/
def RawGlobalConstraints.timeStamps (constraints : RawGlobalConstraints) : List DateTime :=
  constraints.time.elim [] RawTimeWindow.timeStamps

/-- The time stamps in a grant. Whether these are read back is the one question left to the
chrono library. -/
def RawTrustGrantDocument.timeStamps (document : RawTrustGrantDocument) : List DateTime :=
  document.issuedAt :: document.globalConstraints.elim [] RawGlobalConstraints.timeStamps

/-- The two ends of the window of a transition. -/
def RawOwnershipTransitionTimeWindow.timeStamps (window : RawOwnershipTransitionTimeWindow) :
    List DateTime :=
  [window.notBefore, window.notAfter]

/-- The ends of the window of a transition, if there is one. -/
def RawOwnershipTransitionGlobalConstraints.timeStamps
    (constraints : RawOwnershipTransitionGlobalConstraints) : List DateTime :=
  constraints.time.elim [] RawOwnershipTransitionTimeWindow.timeStamps

/-- When the successor accepted. -/
def RawOwnershipTransitionAcceptance.timeStamps
    (acceptance : RawOwnershipTransitionAcceptance) : List DateTime :=
  [acceptance.acceptedAt]

/-- The time stamps in an ownership transition. -/
def RawOwnershipTransitionDocument.timeStamps (document : RawOwnershipTransitionDocument) :
    List DateTime :=
  document.effectiveAt :: document.successorAcceptance.timeStamps ++
    document.globalConstraints.elim [] RawOwnershipTransitionGlobalConstraints.timeStamps

/-- These time stamps are read from the texts that are written for them. It is asked of the
stamps that occur and of no others. -/
def ReadsStamps (readDateTime : String → Option DateTime) (stamps : List DateTime) : Prop :=
  ∀ time ∈ stamps, readDateTime (String.ofList time.toRfc3339) = some time

/-- The time stamps of an optional part are among those of the whole. -/
theorem reads_stamps_of_option {α : Type} {readDateTime : String → Option DateTime}
    {timeStamps : α → List DateTime} {item : Option α}
    (stamps : ReadsStamps readDateTime (item.elim [] timeStamps)) :
    ∀ inner ∈ item, ReadsStamps readDateTime (timeStamps inner) := by
  rintro inner ⟨⟩
  exact stamps

section Fields

variable {α : Type} {read : JsonTree → Option α} {value : α → Json}

/-- An optional field that is written as null or as its value is read back. The value itself must
not be null, or it would be read as absent. -/
theorem optional_value_back {name : String} {values : List (String × Json)} {item : Option α}
    (readBack : ∀ inner ∈ item, ReadBack read value inner)
    (written : values.lookup name = some (optionValue value item)) :
    optionalField read name (Json.toMembers values) = some item := by
  refine optional_read_back readBack ?_
  rw [written]
  cases item <;> rfl

/-- A list of values that are read back is read back. The induction is on the list. -/
theorem list_read_back (law : ∀ item, ReadBack read value item) (items : List α) :
    ReadBack (readVec read) (listValue value) items :=
  vec_read_back fun item _ => law item

/-- The map of resource types is read back: its keys are transparent. The entries come in the
order of the map, which collecting them restores. -/
theorem types_read_back (law : ∀ item, ReadBack read value item) (types : SortedMap Utf16Key α) :
    ReadBack (readMap Utf16Key.mk read)
      (fun types => .object (types.entries.map fun entry => (entry.1.asStr, value entry.2)))
      types :=
  map_read_back (fun _ => rfl) fun entry _ => law entry.2

/-- A time stamp is read back when chrono reads the text that it printed. The reader of chrono is
a parameter, so this is a condition on it. -/
theorem time_stamp_read_back {readDateTime : String → Option DateTime} {time : DateTime}
    (inverse : readDateTime (String.ofList time.toRfc3339) = some time) :
    ReadBack (readText readDateTime) dateTimeValue time :=
  text_read_back inverse

end Fields

/-- An effect is read back by the name it is written under. The two name tables of the derive are
checked against each other. -/
theorem effect_read_back (effect : PostRevocationEffect) :
    ReadBack (readVariant PostRevocationEffect.variants) PostRevocationEffect.toValue effect := by
  cases effect <;> exact ⟨rfl, rfl⟩

/-- A policy is read back by the name it is written under. The names differ, so each finds its
own variant. -/
theorem policy_read_back (policy : RawSupersessionPolicy) :
    ReadBack (readVariant RawSupersessionPolicy.variants) RawSupersessionPolicy.toValue policy := by
  cases policy <;> exact ⟨rfl, rfl⟩

/-- A principal is read back, field after field in the order of its shape. The rule for
structures asks for the readers of its fields and for nothing else. -/
theorem RawPrincipal.read_back (principal : RawPrincipal) :
    ReadBack RawPrincipal.fromTree RawPrincipal.toValue principal := by
  refine RawPrincipal.shape.read_back (by decide) rfl (fun _ => rfl) (.refl _) ?_
  exact field_read_back (required_read_back (string_read_back _) rfl) <|
    field_read_back (required_read_back (string_read_back _) rfl) rfl

/-- A selector is read back; an absent list is written as null, which is read as absent. An empty
list is written and read as empty. -/
theorem RawSelector.read_back (selector : RawSelector) :
    ReadBack RawSelector.fromTree RawSelector.toValue selector := by
  refine RawSelector.shape.read_back (by decide) rfl (fun _ => rfl) (.refl _) ?_
  exact field_read_back (required_read_back (string_read_back _) rfl) <|
    field_read_back (required_read_back (bool_read_back _) rfl) <|
    field_read_back (optional_value_back (fun _ _ => list_read_back string_read_back _) rfl) <|
    field_read_back (optional_value_back (fun _ _ => list_read_back string_read_back _) rfl) rfl

/-- A scope is read back with the selectors inside it. Both lists may be absent, and each
selector is read back by the lemma above. -/
theorem RawScope.read_back (scope : RawScope) :
    ReadBack RawScope.fromTree RawScope.toValue scope := by
  refine RawScope.shape.read_back (by decide) rfl (fun _ => rfl) (.refl _) ?_
  exact field_read_back (required_read_back (bool_read_back _) rfl) <|
    field_read_back (optional_value_back (fun _ _ => list_read_back RawSelector.read_back _) rfl) <|
    field_read_back (optional_value_back
      (fun _ _ => list_read_back RawSelector.read_back _) rfl) rfl

/-- The capabilities of a grant are read back. What is written has no unknown members, so
ignoring these loses nothing here. -/
theorem RawCapabilities.read_back (capabilities : RawCapabilities) :
    ReadBack RawCapabilities.fromTree RawCapabilities.toValue capabilities := by
  refine RawCapabilities.shape.read_back (by decide) rfl (fun _ => rfl) (.refl _) ?_
  exact field_read_back (required_read_back (bool_read_back _) rfl) <|
    field_read_back (required_read_back (bool_read_back _) rfl) rfl

/-- An audience entry is read back with both of its scopes. The scope of principals may be
absent. -/
theorem RawAudienceEntry.read_back (entry : RawAudienceEntry) :
    ReadBack RawAudienceEntry.fromTree RawAudienceEntry.toValue entry := by
  refine RawAudienceEntry.shape.read_back (by decide) rfl (fun _ => rfl) (.refl _) ?_
  exact field_read_back (required_read_back (string_read_back _) rfl) <|
    field_read_back (required_read_back (RawScope.read_back _) rfl) <|
    field_read_back (optional_value_back (fun _ _ => RawScope.read_back _) rfl) rfl

/-- The capabilities of a type are read back. An absent one is null, which is told from false. -/
theorem RawTypeCapabilities.read_back (capabilities : RawTypeCapabilities) :
    ReadBack RawTypeCapabilities.fromTree RawTypeCapabilities.toValue capabilities := by
  refine RawTypeCapabilities.shape.read_back (by decide) rfl (fun _ => rfl) (.refl _) ?_
  exact field_read_back (optional_value_back (fun _ _ => bool_read_back _) rfl) <|
    field_read_back (optional_value_back (fun _ _ => bool_read_back _) rfl) rfl

/-- Minting limits are read back: a written limit fits into the type it is read as. An absent one
is null. -/
theorem RawMintingConstraints.read_back (constraints : RawMintingConstraints) :
    ReadBack RawMintingConstraints.fromTree RawMintingConstraints.toValue constraints := by
  refine RawMintingConstraints.shape.read_back (by decide) rfl (fun _ => rfl) (.refl _) ?_
  exact field_read_back (optional_value_back (fun _ _ => u64_read_back _) rfl) <|
    field_read_back (optional_value_back (fun _ _ => u64_read_back _) rfl) rfl

/-- The constraints of a type are read back. The limits are an object also when none is set. -/
theorem RawTypeConstraints.read_back (constraints : RawTypeConstraints) :
    ReadBack RawTypeConstraints.fromTree RawTypeConstraints.toValue constraints := by
  refine RawTypeConstraints.shape.read_back (by decide) rfl (fun _ => rfl) (.refl _) ?_
  exact field_read_back (required_read_back (RawMintingConstraints.read_back _) rfl) <|
    field_read_back (optional_value_back
      (fun _ _ => list_read_back RawAudienceEntry.read_back _) rfl) rfl

/-- An operation scope is read back. Its names are texts, which are read as they are. -/
theorem RawOperationScope.read_back (scope : RawOperationScope) :
    ReadBack RawOperationScope.fromTree RawOperationScope.toValue scope := by
  refine RawOperationScope.shape.read_back (by decide) rfl (fun _ => rfl) (.refl _) ?_
  exact field_read_back (optional_value_back (fun _ _ => list_read_back string_read_back _) rfl) <|
    field_read_back (optional_value_back (fun _ _ => list_read_back string_read_back _) rfl) rfl

/-- A resource type is read back with all that it narrows. Absent lists are written as null and
read as absent. -/
theorem RawResourceType.read_back (resourceType : RawResourceType) :
    ReadBack RawResourceType.fromTree RawResourceType.toValue resourceType := by
  refine RawResourceType.shape.read_back (by decide) rfl (fun _ => rfl) (.refl _) ?_
  exact field_read_back (required_read_back (bool_read_back _) rfl) <|
    field_read_back (optional_value_back (fun _ _ => list_read_back RawSelector.read_back _) rfl) <|
    field_read_back (optional_value_back (fun _ _ => list_read_back RawSelector.read_back _) rfl) <|
    field_read_back (required_read_back (RawTypeCapabilities.read_back _) rfl) <|
    field_read_back (required_read_back (RawTypeConstraints.read_back _) rfl) <|
    field_read_back (optional_value_back (fun _ _ => RawOperationScope.read_back _) rfl) rfl

/-- The types are read back: no name of a map is written twice, and the order of the members is
that of the keys. -/
theorem RawResourceScope.read_back (scope : RawResourceScope) :
    ReadBack RawResourceScope.fromTree RawResourceScope.toValue scope := by
  refine RawResourceScope.shape.read_back (by decide) rfl (fun _ => rfl) (.refl _) ?_
  exact field_read_back (required_read_back (types_read_back RawResourceType.read_back _) rfl) rfl

/-- A profile is read back. It occurs only where there is one, as an absent profile is left
out. -/
theorem InteroperabilityProfile.read_back (profile : InteroperabilityProfile) :
    ReadBack InteroperabilityProfile.fromTree InteroperabilityProfile.toValue profile := by
  refine InteroperabilityProfile.shape.read_back (by decide) rfl (fun _ => rfl) (.refl _) ?_
  exact field_read_back (required_read_back (string_read_back _) rfl) <|
    field_read_back (required_read_back (u64_read_back _) rfl) rfl

/-- A revocation policy is read back. Its effect is written by its name, so the missing default
is no matter. -/
theorem RawRevocation.read_back (revocation : RawRevocation) :
    ReadBack RawRevocation.fromTree RawRevocation.toValue revocation := by
  refine RawRevocation.shape.read_back (by decide) rfl (fun _ => rfl) (.refl _) ?_
  exact field_read_back (required_read_back (bool_read_back _) rfl) <|
    field_read_back (required_read_back (string_read_back _) rfl) <|
    field_read_back (required_read_back (effect_read_back _) rfl) rfl

/-- A selector of a transition is read back. Its fields are those of a selector of a grant, under
another reader. -/
theorem RawOwnershipTransitionSelector.read_back (selector : RawOwnershipTransitionSelector) :
    ReadBack RawOwnershipTransitionSelector.fromTree RawOwnershipTransitionSelector.toValue
      selector := by
  refine RawOwnershipTransitionSelector.shape.read_back (by decide) rfl (fun _ => rfl) (.refl _) ?_
  exact field_read_back (required_read_back (string_read_back _) rfl) <|
    field_read_back (required_read_back (bool_read_back _) rfl) <|
    field_read_back (optional_value_back (fun _ _ => list_read_back string_read_back _) rfl) <|
    field_read_back (optional_value_back (fun _ _ => list_read_back string_read_back _) rfl) rfl

/-- A resource type of a transition is read back. It consists of a flag and two lists of
selectors. -/
theorem RawOwnershipTransitionResourceType.read_back
    (resourceType : RawOwnershipTransitionResourceType) :
    ReadBack RawOwnershipTransitionResourceType.fromTree RawOwnershipTransitionResourceType.toValue
      resourceType := by
  refine RawOwnershipTransitionResourceType.shape.read_back (by decide) rfl (fun _ => rfl)
    (.refl _) ?_
  exact field_read_back (required_read_back (bool_read_back _) rfl) <|
    field_read_back (optional_value_back
      (fun _ _ => list_read_back RawOwnershipTransitionSelector.read_back _) rfl) <|
    field_read_back (optional_value_back
      (fun _ _ => list_read_back RawOwnershipTransitionSelector.read_back _) rfl) rfl

/-- The types of a transition are read back. The map keeps its keys, since these are written as
they are spelled. -/
theorem RawOwnershipTransitionResourceScope.read_back
    (scope : RawOwnershipTransitionResourceScope) :
    ReadBack RawOwnershipTransitionResourceScope.fromTree
      RawOwnershipTransitionResourceScope.toValue scope := by
  refine RawOwnershipTransitionResourceScope.shape.read_back (by decide) rfl (fun _ => rfl)
    (.refl _) ?_
  exact field_read_back
    (required_read_back (types_read_back RawOwnershipTransitionResourceType.read_back _) rfl) rfl

/-- The signature of the predecessor is read back. Both of its fields are texts. -/
theorem RawOwnershipTransitionSignature.read_back (proof : RawOwnershipTransitionSignature) :
    ReadBack RawOwnershipTransitionSignature.fromTree RawOwnershipTransitionSignature.toValue
      proof := by
  refine RawOwnershipTransitionSignature.shape.read_back (by decide) rfl (fun _ => rfl) (.refl _) ?_
  exact field_read_back (required_read_back (string_read_back _) rfl) <|
    field_read_back (required_read_back (string_read_back _) rfl) rfl

section TimeStamps

variable {readDateTime : String → Option DateTime}

/-- A window is read back when its two time stamps are. What the chrono library reads of what it
wrote is the condition. -/
theorem RawTimeWindow.read_back (window : RawTimeWindow)
    (stamps : ReadsStamps readDateTime window.timeStamps) :
    ReadBack (RawTimeWindow.fromTree readDateTime) RawTimeWindow.toValue window := by
  obtain ⟨notBefore, inEnd⟩ := List.forall_mem_cons.mp stamps
  have notAfter := inEnd _ List.mem_cons_self
  refine RawTimeWindow.shape.read_back (by decide) rfl (fun _ => rfl) (.refl _) ?_
  exact field_read_back (required_read_back (time_stamp_read_back notBefore) rfl) <|
    field_read_back (required_read_back (time_stamp_read_back notAfter) rfl) rfl

/-- The constraints of a grant are read back when their time stamps are. Without a window there
are none. -/
theorem RawGlobalConstraints.read_back (constraints : RawGlobalConstraints)
    (stamps : ReadsStamps readDateTime constraints.timeStamps) :
    ReadBack (RawGlobalConstraints.fromTree readDateTime) RawGlobalConstraints.toValue
      constraints := by
  have ofWindow := reads_stamps_of_option stamps
  refine RawGlobalConstraints.shape.read_back (by decide) rfl (fun _ => rfl) (.refl _) ?_
  exact field_read_back (optional_value_back
    (fun window present => RawTimeWindow.read_back window (ofWindow window present)) rfl) rfl

/-- A profile that is left out is absent. It is the one optional field that is not written as
null. -/
theorem profile_member_back (profile : Option InteroperabilityProfile)
    (members : List (String × Json))
    (apart : members.lookup "interoperability_profile" = none) :
    optionalField InteroperabilityProfile.fromTree "interoperability_profile"
      (Json.toMembers (members ++ profileMember profile)) = some profile := by
  have found : (members ++ profileMember profile).lookup "interoperability_profile" =
      (profileMember profile).lookup "interoperability_profile" := by
    rw [List.lookup_append, apart, Option.none_or]
  cases profile with
  | none => exact omitted_read_back found
  | some profile =>
    have back : ∀ inner ∈ some profile, ReadBack InteroperabilityProfile.fromTree
        InteroperabilityProfile.toValue inner := fun inner _ => inner.read_back
    exact optional_read_back back found

/-- A grant is read back from the value that serde writes for it, provided that chrono reads its
time stamps back. The last field is left out of the value when there is no profile, and the
reader then takes its default. -/
theorem RawTrustGrantDocument.read_back (document : RawTrustGrantDocument)
    (stamps : ReadsStamps readDateTime document.timeStamps) :
    ReadBack (RawTrustGrantDocument.fromTree readDateTime) RawTrustGrantDocument.toValue
      document := by
  obtain ⟨issuedAt, ofConstraints⟩ := List.forall_mem_cons.mp stamps
  have named : ∀ profile, (RawTrustGrantDocument.shape.fields.dropLast ++
      (profileMember profile).map Prod.fst).Sublist RawTrustGrantDocument.shape.fields := by
    intro profile
    cases profile with
    | none =>
      rw [profileMember, List.map_nil, List.append_nil]
      exact List.dropLast_sublist _
    | some profile => exact .refl _
  refine RawTrustGrantDocument.shape.read_back (by decide) rfl (fun _ => rfl) (named _) ?_
  exact field_read_back (required_read_back (string_read_back _) rfl) <|
    field_read_back (required_read_back (u8_read_back _) rfl) <|
    field_read_back (required_read_back (string_read_back _) rfl) <|
    field_read_back (required_read_back (u64_read_back _) rfl) <|
    field_read_back (optional_value_back (fun _ _ => string_read_back _) rfl) <|
    field_read_back (required_read_back (policy_read_back _) rfl) <|
    field_read_back (required_read_back (string_read_back _) rfl) <|
    field_read_back (required_read_back (string_read_back _) rfl) <|
    field_read_back (required_read_back (string_read_back _) rfl) <|
    field_read_back (required_read_back (string_read_back _) rfl) <|
    field_read_back (required_read_back (RawScope.read_back _) rfl) <|
    field_read_back (required_read_back (RawCapabilities.read_back _) rfl) <|
    field_read_back (optional_value_back
      (fun _ _ => list_read_back RawAudienceEntry.read_back _) rfl) <|
    field_read_back (required_read_back (RawResourceScope.read_back _) rfl) <|
    field_read_back (optional_value_back (fun constraints present =>
      constraints.read_back (reads_stamps_of_option ofConstraints constraints present)) rfl) <|
    field_read_back (optional_value_back (fun _ _ => RawRevocation.read_back _) rfl) <|
    field_read_back (required_read_back (time_stamp_read_back issuedAt) rfl) <|
    field_read_back (required_read_back (string_read_back _) rfl) <|
    field_read_back (optional_value_back (fun _ _ => RawPrincipal.read_back _) rfl) <|
    field_read_back (profile_member_back _ _ rfl) rfl

/-- The window of a transition is read back when its time stamps are. Both ends are required. -/
theorem RawOwnershipTransitionTimeWindow.read_back (window : RawOwnershipTransitionTimeWindow)
    (stamps : ReadsStamps readDateTime window.timeStamps) :
    ReadBack (RawOwnershipTransitionTimeWindow.fromTree readDateTime)
      RawOwnershipTransitionTimeWindow.toValue window := by
  obtain ⟨notBefore, inEnd⟩ := List.forall_mem_cons.mp stamps
  have notAfter := inEnd _ List.mem_cons_self
  refine RawOwnershipTransitionTimeWindow.shape.read_back (by decide) rfl (fun _ => rfl)
    (.refl _) ?_
  exact field_read_back (required_read_back (time_stamp_read_back notBefore) rfl) <|
    field_read_back (required_read_back (time_stamp_read_back notAfter) rfl) rfl

/-- The constraints of a transition are read back when their time stamps are. Without a window
there are none. -/
theorem RawOwnershipTransitionGlobalConstraints.read_back
    (constraints : RawOwnershipTransitionGlobalConstraints)
    (stamps : ReadsStamps readDateTime constraints.timeStamps) :
    ReadBack (RawOwnershipTransitionGlobalConstraints.fromTree readDateTime)
      RawOwnershipTransitionGlobalConstraints.toValue constraints := by
  have ofWindow := reads_stamps_of_option stamps
  refine RawOwnershipTransitionGlobalConstraints.shape.read_back (by decide) rfl (fun _ => rfl)
    (.refl _) ?_
  exact field_read_back (optional_value_back
    (fun window present => window.read_back (ofWindow window present)) rfl) rfl

/-- An acceptance is read back when its time is. The key and the signature are texts. -/
theorem RawOwnershipTransitionAcceptance.read_back (acceptance : RawOwnershipTransitionAcceptance)
    (stamps : ReadsStamps readDateTime acceptance.timeStamps) :
    ReadBack (RawOwnershipTransitionAcceptance.fromTree readDateTime)
      RawOwnershipTransitionAcceptance.toValue acceptance := by
  have acceptedAt := stamps _ List.mem_cons_self
  refine RawOwnershipTransitionAcceptance.shape.read_back (by decide) rfl (fun _ => rfl)
    (.refl _) ?_
  exact field_read_back (required_read_back (time_stamp_read_back acceptedAt) rfl) <|
    field_read_back (required_read_back (string_read_back _) rfl) <|
    field_read_back (required_read_back (string_read_back _) rfl) rfl

/-- A transition is read back from the value that serde writes for it, provided that chrono reads
its time stamps back. -/
theorem RawOwnershipTransitionDocument.read_back (document : RawOwnershipTransitionDocument)
    (stamps : ReadsStamps readDateTime document.timeStamps) :
    ReadBack (RawOwnershipTransitionDocument.fromTree readDateTime)
      RawOwnershipTransitionDocument.toValue document := by
  obtain ⟨inAcceptance, ofConstraints⟩ := List.forall_mem_append.mp stamps
  obtain ⟨effectiveAt, ofAcceptance⟩ := List.forall_mem_cons.mp inAcceptance
  refine RawOwnershipTransitionDocument.shape.read_back (by decide) rfl (fun _ => rfl)
    (.refl _) ?_
  exact field_read_back (required_read_back (string_read_back _) rfl) <|
    field_read_back (required_read_back (u8_read_back _) rfl) <|
    field_read_back (required_read_back (string_read_back _) rfl) <|
    field_read_back (required_read_back (u64_read_back _) rfl) <|
    field_read_back (optional_value_back (fun _ _ => string_read_back _) rfl) <|
    field_read_back (required_read_back (string_read_back _) rfl) <|
    field_read_back (required_read_back (string_read_back _) rfl) <|
    field_read_back (required_read_back (string_read_back _) rfl) <|
    field_read_back (required_read_back
      (RawOwnershipTransitionResourceScope.read_back _) rfl) <|
    field_read_back (optional_value_back (fun constraints present =>
      constraints.read_back (reads_stamps_of_option ofConstraints constraints present)) rfl) <|
    field_read_back (required_read_back (time_stamp_read_back effectiveAt) rfl) <|
    field_read_back (required_read_back (RawOwnershipTransitionSignature.read_back _) rfl) <|
    field_read_back (required_read_back
      (RawOwnershipTransitionAcceptance.read_back _ ofAcceptance) rfl) rfl

end TimeStamps

/-- What is asked of the libraries that read JSON and time stamps: that the text of this value is
read as the value, and the texts of these time stamps as the time stamps. -/
structure TextReadBack (readDateTime : String → Option DateTime)
    (parse : String → Option JsonTree) (value : Json) (timeStamps : List DateTime) : Prop where
  syntaxRead : parse (treeText value.toTree) = some value.toTree
  stampsRead : ReadsStamps readDateTime timeStamps

/-- A grant is read back from its text when the text syntax is read back. So the results need
nothing of the JSON library but this one text. -/
theorem grant_text_read {readDateTime : String → Option DateTime}
    {parse : String → Option JsonTree} (grant : RawTrustGrantDocument)
    (textRead : TextReadBack readDateTime parse grant.toValue grant.timeStamps) :
    RawTrustGrantDocument.fromStr readDateTime parse grant.toJsonString = some grant :=
  Option.bind_eq_some_iff.mpr ⟨_, textRead.syntaxRead, (grant.read_back textRead.stampsRead).reads⟩

/-- A transition is read back from its text when the text syntax is read back. Both kinds of
documents rest on the same rules. -/
theorem transition_text_read {readDateTime : String → Option DateTime}
    {parse : String → Option JsonTree} (transition : RawOwnershipTransitionDocument)
    (textRead : TextReadBack readDateTime parse transition.toValue transition.timeStamps) :
    RawOwnershipTransitionDocument.fromStr readDateTime parse transition.toJsonString =
      some transition :=
  Option.bind_eq_some_iff.mpr
    ⟨_, textRead.syntaxRead, (transition.read_back textRead.stampsRead).reads⟩

/-- Every grant and every ownership transition whose text is within the limit is parsed from
this text as it was written, and none beyond the limit is.

Proof: parsing is the check of the size followed by the reading of the text, and the text is read
back by the rules for what serde writes. -/
theorem written_documents_parsed_back (readDateTime : String → Option DateTime)
    (parse : String → Option JsonTree) (grant : RawTrustGrantDocument)
    (transition : RawOwnershipTransitionDocument)
    (grantRead : TextReadBack readDateTime parse grant.toValue grant.timeStamps)
    (transitionRead : TextReadBack readDateTime parse transition.toValue transition.timeStamps) :
    (RawTrustGrantDocument.parseJsonStr (RawTrustGrantDocument.fromStr readDateTime parse)
        grant.toJsonString = .ok grant ↔
      Text.len grant.toJsonString ≤ maxTrustgrantJsonBytes) ∧
    (RawOwnershipTransitionDocument.parseJsonStr
        (RawOwnershipTransitionDocument.fromStr readDateTime parse) transition.toJsonString =
          .ok transition ↔
      Text.len transition.toJsonString ≤ maxOwnershipTransitionJsonBytes) := by
  constructor
  · rw [parse_json_str_ok_iff]
    exact and_iff_left (grant_text_read grant grantRead)
  · rw [parse_transition_ok_iff]
    exact and_iff_left (transition_text_read transition transitionRead)

/-- Reading the texts of two values. -/
def readEitherText (first second : JsonTree) (json : String) : Option JsonTree :=
  (readTreeText first json).or (readTreeText second json)

/-- The reader of the one instant reads the text that is printed for it. -/
theorem small_stamp_read :
    readSmallInstant (String.ofList smallInstant.toRfc3339) = some smallInstant := by
  decide +kernel

/-- A short grant all of whose time stamps are noon on 2026-04-07 is parsed from its text. It is
the general result at the reader of one instant. -/
theorem small_grant_parsed (grant : RawTrustGrantDocument) (parse : String → Option JsonTree)
    (syntaxRead : parse grant.toJsonString = some grant.toValue.toTree)
    (stamps : ∀ time ∈ grant.timeStamps, time = smallInstant)
    (short : 4 * (writeTree grant.toValue.toTree).length ≤ 65536) :
    RawTrustGrantDocument.parseJsonStr (RawTrustGrantDocument.fromStr readSmallInstant parse)
      grant.toJsonString = .ok grant := by
  rw [parse_json_str_ok_iff]
  refine ⟨(Text.len_of_list_le _).trans short, grant_text_read _ ⟨syntaxRead, ?_⟩⟩
  intro time listed
  rw [stamps time listed]
  exact small_stamp_read

/-- What reads the small grant and the small transition. -/
def readSmallTexts : String → Option JsonTree :=
  readEitherText (smallParsed none).toValue.toTree smallTransition.toValue.toTree

/-- The small grant and the small transition are parsed from their texts. One small reader knows
both texts, which are apart. -/
theorem small_documents_parsed_back :
    RawTrustGrantDocument.parseJsonStr (RawTrustGrantDocument.fromStr readSmallInstant
        readSmallTexts) (smallParsed none).toJsonString = .ok (smallParsed none) ∧
      RawOwnershipTransitionDocument.parseJsonStr (RawOwnershipTransitionDocument.fromStr
        readSmallInstant readSmallTexts) smallTransition.toJsonString = .ok smallTransition := by
  have grantRead : TextReadBack readSmallInstant readSmallTexts (smallParsed none).toValue
      (smallParsed none).timeStamps := by
    refine ⟨?_, ?_⟩
    · rw [readSmallTexts, readEitherText, read_tree_text, Option.some_or]
    · rintro time (_ | ⟨_, ⟨⟩⟩)
      exact small_stamp_read
  have transitionRead : TextReadBack readSmallInstant readSmallTexts smallTransition.toValue
      smallTransition.timeStamps := by
    refine ⟨?_, ?_⟩
    · have apart : readTreeText (smallParsed none).toValue.toTree
          (treeText smallTransition.toValue.toTree) = none := by
        rw [readTreeText, treeText, String.toList_ofList, if_neg (by decide +kernel)]
      rw [readSmallTexts, readEitherText, apart, Option.none_or, read_tree_text]
    · rintro time (_ | ⟨_, _ | ⟨_, ⟨⟩⟩⟩) <;> exact small_stamp_read
  have parsed := written_documents_parsed_back readSmallInstant readSmallTexts (smallParsed none)
    smallTransition grantRead transitionRead
  exact ⟨parsed.1.mpr ((Text.len_of_list_le _).trans (by decide +kernel)),
    parsed.2.mpr ((Text.len_of_list_le _).trans (by decide +kernel))⟩

end TrustGrant
