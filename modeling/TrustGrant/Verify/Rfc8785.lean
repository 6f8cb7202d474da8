import TrustGrant.Document.Validated
import TrustGrant.Document.WireValue
import TrustGrant.Domain.Utf16Order
import TrustGrant.Verify.Canonicalize

/-!
# The writers against the generic encoding

RFC 8785 encodes any JSON value: members in the order of the UTF-16 code units of their
names, no white space, the shortest escapes, and numbers as ECMAScript writes them. The
writers of the canonicalizer name their fields in a fixed order and leave the signature out.
On the value of a wire document both yield the same text.

The comparison goes field by field through the wire types. The order of the written fields
is checked on their names, the order of the resource types is the one of the map, and
numbers are compared under the condition that they are exactly representable.
-/

namespace TrustGrant

open Rust Rust.Json Library Library.PrefixCode

/-! ## The generic encoding -/

/-- The scalar values with an escape of their own, and the letters of these escapes. -/
def shortEscapes : List (Nat × Char) :=
  [(0x08, 'b'), (0x09, 't'), (0x0A, 'n'), (0x0C, 'f'), (0x0D, 'r'), (0x22, quote),
    (0x5C, backslash)]

/-- The shortest form of one scalar value: itself unless it must be escaped. -/
def minimalEscape (c : Char) : List Char :=
  match shortEscapes.lookup c.toNat with
  | some letter => [backslash, letter]
  | none =>
    if c.toNat < 0x20 then
      backslash :: 'u' ::
        [0x1000, 0x100, 0x10, 1].map fun weight => Nat.digitChar (c.toNat / weight % 16)
    else [c]

/-- A format of numbers: the integers that a double represents exactly along with their
neighbours are written by their digits. What is written for larger ones depends on how they
are rounded, and is left open. -/
structure NumberFormat where
  write : Nat → List Char
  exact : ∀ value ≤ 2 ^ 53 - 1, write value = Decimal.digits value

/-- The encoding of RFC 8785. -/
def rfc8785 (format : NumberFormat) : CanonicalForm (List Nat) where
  order name := (⟨name⟩ : Utf16Key).units
  writeString text := quote :: (text.toList.flatMap minimalEscape ++ [quote])
  writeNumber := format.write

/-- The four hexadecimal digits of a control character begin with two zeros. -/
theorem control_digits (code : Nat) (control : code < 0x20) :
    ([0x1000, 0x100, 0x10, 1].map fun weight => Nat.digitChar (code / weight % 16)) =
      ['0', '0', Nat.digitChar (code / 16), Nat.digitChar (code % 16)] := by
  have all : ∀ code : Fin 0x20,
      ([0x1000, 0x100, 0x10, 1].map fun weight => Nat.digitChar (code.val / weight % 16)) =
        ['0', '0', Nat.digitChar (code.val / 16), Nat.digitChar (code.val % 16)] := by decide
  exact all ⟨code, control⟩

/-- The escapes of serde_json are the shortest ones. The characters with a short escape are
listed, the other control characters get four digits, and nothing else is escaped. -/
theorem minimal_escape_eq (c : Char) : minimalEscape c = escapeChar c := by
  have known : ∀ code : Nat, c.toNat = code → c = Char.ofNat code := by
    rintro code rfl
    exact (Char.ofNat_toNat c).symm
  by_cases listed : c.toNat ∈ shortEscapes.map Prod.fst
  · simp only [shortEscapes, List.map_cons, List.map_nil, List.mem_cons, List.not_mem_nil,
      or_false] at listed
    rcases listed with code | code | code | code | code | code | code <;>
      rw [known _ code] <;> decide
  · have noShort : shortEscapes.lookup c.toNat = none :=
      List.lookup_eq_none_iff.mpr fun pair inside =>
        bne_iff_ne.mpr fun same => listed (same ▸ List.mem_map_of_mem inside)
    have noLetter : escapeLetter c = none := by
      unfold escapeLetter
      split_ifs with isQuote isBackslash isB isT isN isF isR
      · exact absurd (isQuote ▸ by decide) listed
      · exact absurd (isBackslash ▸ by decide) listed
      · exact absurd (isB ▸ by decide) listed
      · exact absurd (isT ▸ by decide) listed
      · exact absurd (isN ▸ by decide) listed
      · exact absurd (isF ▸ by decide) listed
      · exact absurd (isR ▸ by decide) listed
      · rfl
    simp only [minimalEscape, escapeChar, noShort, noLetter]
    split
    · rename_i control
      rw [control_digits _ control]
    · rfl

/-- The largest integer below which doubles have no gaps. -/
def maxSafeInteger : Nat := 2 ^ 53 - 1

/-- The limits of a type that the number format writes by their digits. -/
structure RawMintingConstraints.SafeIntegers (constraints : RawMintingConstraints) : Prop where
  maxTotal : ∀ limit ∈ constraints.maxTotal, limit.toNat ≤ maxSafeInteger
  maxPerUser : ∀ limit ∈ constraints.maxPerUser, limit.toNat ≤ maxSafeInteger

/-- The two bounds are decided, so that closed documents can be checked. -/
instance (constraints : RawMintingConstraints) : Decidable constraints.SafeIntegers :=
  decidable_of_iff
    (constraints.maxTotal.all (·.toNat ≤ maxSafeInteger) = true ∧
      constraints.maxPerUser.all (·.toNat ≤ maxSafeInteger) = true) <| by
    simp only [Option.all_eq_true, decide_eq_true_eq]
    exact ⟨fun safe => ⟨safe.1, safe.2⟩, fun safe => ⟨safe.maxTotal, safe.maxPerUser⟩⟩

/-- All integers of a document are written by their digits. -/
structure RawTrustGrantDocument.SafeIntegers (document : RawTrustGrantDocument) : Prop where
  revision : document.revision.toNat ≤ maxSafeInteger
  minting : ∀ entry ∈ document.resourceScope.types.entries,
    entry.2.constraints.minting.SafeIntegers

/-- The bound of the revision and those of every type are decided. -/
instance (document : RawTrustGrantDocument) : Decidable document.SafeIntegers :=
  decidable_of_iff
    (document.revision.toNat ≤ maxSafeInteger ∧
      ∀ entry ∈ document.resourceScope.types.entries, entry.2.constraints.minting.SafeIntegers)
    ⟨fun safe => ⟨safe.1, safe.2⟩, fun safe => ⟨safe.revision, safe.minting⟩⟩

section Values

variable (format : NumberFormat)

/-- A boolean is encoded as the writer writes it. -/
theorem encode_bool (value : Bool) : (rfc8785 format).encode (.bool value) = writeBool value := by
  cases value with
  | true => rfl
  | false => rfl

/-- A string is encoded as the writer writes it, since the escapes of serde_json are the
shortest. -/
theorem encode_string (text : String) :
    (rfc8785 format).encode (.string text) = writeJsonString text := by
  show quote :: (text.toList.flatMap minimalEscape ++ [quote]) = writeJsonString text
  rw [funext minimal_escape_eq, writeJsonString]

/-- A number is encoded by its digits as long as the format, which goes through doubles, is exact
there. -/
theorem encode_u64 (value : UInt64) (safe : value.toNat ≤ maxSafeInteger) :
    (rfc8785 format).encode (u64Value value) = writeU64 value :=
  format.exact value.toNat safe

/-- The version is far below that bound. -/
theorem encode_u8 (value : UInt8) :
    (rfc8785 format).encode (.number value.toNat) = writeU8 value := by
  have small : value.toNat < 2 ^ 8 := value.toNat_lt
  exact format.exact value.toNat (by omega)

/-- An absent value is null in both. -/
theorem encode_option {α : Type} {value : α → Json} {write : α → List Char} (option : Option α)
    (inner : ∀ item ∈ option, (rfc8785 format).encode (value item) = write item) :
    (rfc8785 format).encode (optionValue value option) = optional writeNull write option := by
  cases option with
  | none => rfl
  | some item => exact inner item rfl

/-- An array is encoded item by item, which is how the writer writes it. -/
theorem encode_list {α : Type} {value : α → Json} {write : α → List Char} (items : List α)
    (inner : ∀ item ∈ items, (rfc8785 format).encode (value item) = write item) :
    (rfc8785 format).encode (listValue value items) = writeArray write items := by
  rw [listValue, CanonicalForm.encode_array, separated_map, separated_congr ',' items inner,
    writeArray]

/-- A member is written as a field. -/
theorem encode_member (name : String) (value : Json) :
    (rfc8785 format).encodeMember (name, value) =
      writeField (rfc8785 format).encode name value := by
  show (rfc8785 format).encode (.string name) ++ ':' :: (rfc8785 format).encode value = _
  rw [encode_string, writeField, writeFieldName, List.append_assoc]
  rfl

/-- A record with its fields at their positions in the order of their names. The positions are
given as a list, so the reordering is checked on names alone. -/
theorem encode_fields (names : List String) (values : List Json) (positions : List Nat)
    (counted : values.length = names.length)
    (complete : positions.Perm (List.range names.length))
    (increasing : (positions.map fun position =>
      (⟨names.getD position ""⟩ : Utf16Key).units).Pairwise (· < ·)) :
    (rfc8785 format).encode (.object (names.zip values)) =
      openBrace :: (separated ',' (fun position => writeField (rfc8785 format).encode
        (names.getD position "") (values.getD position .null)) positions ++ [closeBrace]) := by
  rw [(rfc8785 format).encode_record names values positions counted complete increasing,
    separated_map, separated_congr ',' positions fun position _ => encode_member format _ _]
  rfl

/-- An optional list of strings. -/
theorem encode_strings (strings : Option (List String)) :
    (rfc8785 format).encode (stringsValue strings) =
      optional writeNull (writeArray writeJsonString) strings :=
  encode_option format strings fun items _ =>
    encode_list format items fun text _ => encode_string format text

/-- A time stamp is a string without anything to escape. -/
theorem encode_date_time (time : DateTime) :
    (rfc8785 format).encode (dateTimeValue time) = writeDateTime time := by
  rw [dateTimeValue, encode_string, write_json_string_stamp]

end Values

section Records

variable (format : NumberFormat)

/-- A principal: the encoding sorts its two members, and the writer names them sorted. -/
theorem encode_principal (principal : RawPrincipal) :
    (rfc8785 format).encode principal.toValue = writePrincipal principal := by
  refine (encode_fields format ["kind", "id"] [.string principal.kind, .string principal.id]
    [1, 0] rfl (by decide) (by decide)).trans ?_
  simp [separated, writeField, encode_string, writePrincipal, writeJsonStringField]

/-- A selector: four members, sorted by name. -/
theorem encode_selector (selector : RawSelector) :
    (rfc8785 format).encode selector.toValue = writeSelector selector := by
  refine (encode_fields format ["kind", "all", "values", "expressions"]
    [.string selector.kind, .bool selector.all, stringsValue selector.values,
      stringsValue selector.expressions] [1, 3, 0, 2] rfl (by decide) (by decide)).trans ?_
  simp [separated, writeField, encode_string, encode_bool, encode_strings, writeSelector,
    writeBoolField, writeStringArrayField, writeJsonStringField]

/-- An optional list of selectors. -/
theorem encode_selectors (selectors : Option (List RawSelector)) :
    (rfc8785 format).encode (selectorsValue selectors) =
      optional writeNull (writeArray writeSelector) selectors :=
  encode_option format selectors fun items _ =>
    encode_list format items fun selector _ => encode_selector format selector

/-- A scope: three members, sorted by name. -/
theorem encode_scope (scope : RawScope) :
    (rfc8785 format).encode scope.toValue = writeScope scope := by
  refine (encode_fields format ["all", "allow", "deny"]
    [.bool scope.all, selectorsValue scope.allow, selectorsValue scope.deny]
    [0, 1, 2] rfl (by decide) (by decide)).trans ?_
  simp [separated, writeField, encode_bool, encode_selectors, writeScope, writeBoolField,
    writeSelectorsField]

/-- The capabilities of a grant: two members, swapped by the sorting. -/
theorem encode_capabilities (capabilities : RawCapabilities) :
    (rfc8785 format).encode capabilities.toValue = writeCapabilities capabilities := by
  refine (encode_fields format ["recognize", "mint"]
    [.bool capabilities.recognize, .bool capabilities.mint]
    [1, 0] rfl (by decide) (by decide)).trans ?_
  simp [separated, writeField, encode_bool, writeCapabilities, writeBoolField]

/-- An optional scope. -/
theorem encode_optional_scope (scope : Option RawScope) :
    (rfc8785 format).encode (optionValue RawScope.toValue scope) =
      optional writeNull writeScope scope :=
  encode_option format scope fun inner _ => encode_scope format inner

/-- An audience entry: the scope of principals moves to the middle. The other two members keep
their order. -/
theorem encode_audience_entry (entry : RawAudienceEntry) :
    (rfc8785 format).encode entry.toValue = writeAudienceEntry entry := by
  refine (encode_fields format ["authority_id", "scope", "principal_scope"]
    [.string entry.authorityId, entry.scope.toValue,
      optionValue RawScope.toValue entry.principalScope]
    [0, 2, 1] rfl (by decide) (by decide)).trans ?_
  simp [separated, writeField, encode_string, encode_scope, encode_optional_scope,
    writeAudienceEntry, writeJsonStringField, writeScopeField, writeOptionalScopeField]

/-- An optional audience. -/
theorem encode_audience (audience : Option (List RawAudienceEntry)) :
    (rfc8785 format).encode (audienceValue audience) = writeAudienceEntries audience :=
  encode_option format audience fun items _ =>
    encode_list format items fun entry _ => encode_audience_entry format entry

/-- An optional boolean. -/
theorem encode_optional_bool (value : Option Bool) :
    (rfc8785 format).encode (optionValue .bool value) = optional writeNull writeBool value :=
  encode_option format value fun inner _ => encode_bool format inner

/-- The capabilities of a type. -/
theorem encode_type_capabilities (capabilities : RawTypeCapabilities) :
    (rfc8785 format).encode capabilities.toValue = writeTypeCapabilities capabilities := by
  refine (encode_fields format ["recognize", "mint"]
    [optionValue .bool capabilities.recognize, optionValue .bool capabilities.mint]
    [1, 0] rfl (by decide) (by decide)).trans ?_
  simp [separated, writeField, encode_optional_bool, writeTypeCapabilities,
    writeOptionalBoolField]

/-- An optional limit within the exact range. -/
theorem encode_optional_u64 (value : Option UInt64)
    (safe : ∀ limit ∈ value, limit.toNat ≤ maxSafeInteger) :
    (rfc8785 format).encode (optionValue u64Value value) = optional writeNull writeU64 value :=
  encode_option format value fun limit present => encode_u64 format limit (safe limit present)

/-- Minting limits within the exact range. Beyond it the number format of the encoding would
round. -/
theorem encode_minting_constraints (constraints : RawMintingConstraints)
    (safe : constraints.SafeIntegers) :
    (rfc8785 format).encode constraints.toValue = writeMintingConstraints constraints := by
  refine (encode_fields format ["max_total", "max_per_user"]
    [optionValue u64Value constraints.maxTotal, optionValue u64Value constraints.maxPerUser]
    [1, 0] rfl (by decide) (by decide)).trans ?_
  simp [separated, writeField, encode_optional_u64 format _ safe.maxTotal,
    encode_optional_u64 format _ safe.maxPerUser, writeMintingConstraints, writeOptionalU64Field]

/-- The constraints of a type whose limits are within the exact range. Their members are in order
already. -/
theorem encode_type_constraints (constraints : RawTypeConstraints)
    (safe : constraints.minting.SafeIntegers) :
    (rfc8785 format).encode constraints.toValue = writeTypeConstraints constraints := by
  have minting := encode_minting_constraints format constraints.minting safe
  refine (encode_fields format ["minting", "audience_scope"]
    [constraints.minting.toValue, audienceValue constraints.audienceScope]
    [1, 0] rfl (by decide) (by decide)).trans ?_
  simp [separated, writeField, minting, encode_audience, writeTypeConstraints,
    writeAudienceScopeField, writeMintingConstraintsField]

/-- An operation scope. -/
theorem encode_operation_scope (scope : RawOperationScope) :
    (rfc8785 format).encode scope.toValue = writeOperationScope scope := by
  refine (encode_fields format ["allow", "deny"]
    [stringsValue scope.allow, stringsValue scope.deny]
    [0, 1] rfl (by decide) (by decide)).trans ?_
  simp [separated, writeField, encode_strings, writeOperationScope, writeStringArrayField]

/-- An optional operation scope. -/
theorem encode_operations (operations : Option RawOperationScope) :
    (rfc8785 format).encode (optionValue RawOperationScope.toValue operations) =
      optional writeNull writeOperationScope operations :=
  encode_option format operations fun scope _ => encode_operation_scope format scope

/-- A resource type: six members, of which the sorting moves the denied selectors. Each member
has an encoding lemma of its own. -/
theorem encode_resource_type (resourceType : RawResourceType)
    (safe : resourceType.constraints.minting.SafeIntegers) :
    (rfc8785 format).encode resourceType.toValue = writeResourceType resourceType := by
  have constraints := encode_type_constraints format resourceType.constraints safe
  refine (encode_fields format
    ["all", "allow", "deny", "capabilities", "constraints", "operations"]
    [.bool resourceType.all, selectorsValue resourceType.allow, selectorsValue resourceType.deny,
      resourceType.capabilities.toValue, resourceType.constraints.toValue,
      optionValue RawOperationScope.toValue resourceType.operations]
    [0, 1, 3, 4, 2, 5] rfl (by decide) (by decide)).trans ?_
  simp [separated, writeField, encode_bool, encode_selectors, encode_type_capabilities,
    constraints, encode_operations, writeResourceType, writeBoolField, writeSelectorsField,
    writeTypeCapabilitiesField, writeTypeConstraintsField, writeOperationScopeField]

/-- The type map is written in the order in which it is kept. The map is ordered by code units,
which is the order the encoding asks for. -/
theorem encode_resource_scope (scope : RawResourceScope)
    (safe : ∀ entry ∈ scope.types.entries, entry.2.constraints.minting.SafeIntegers) :
    (rfc8785 format).encode scope.toValue = writeResourceScope scope := by
  have increasing : ((scope.types.entries.map fun entry => (entry.1.asStr, entry.2.toValue)).map
      fun member => (rfc8785 format).order member.1).Pairwise (· < ·) := by
    rw [List.map_map, List.pairwise_map]
    exact scope.types.sorted.imp fun before => (Utf16Key.lt_iff_units _ _).mp before
  have entries : ∀ entry ∈ scope.types.entries,
      (rfc8785 format).encodeMember (entry.1.asStr, entry.2.toValue) =
        writeResourceTypeEntry entry := by
    intro entry member
    rw [encode_member, writeField, writeFieldName, List.append_assoc, writeResourceTypeEntry,
      encode_resource_type format entry.2 (safe entry member)]
    rfl
  have types : (rfc8785 format).encode (.object (scope.types.entries.map fun entry =>
      (entry.1.asStr, entry.2.toValue))) = writeResourceTypeMap scope.types := by
    rw [(rfc8785 format).encode_object _ _ increasing (List.Perm.refl _), separated_map,
      separated_congr ',' _ entries]
    rfl
  refine (encode_fields format ["types"] [_] [0] rfl (by decide) (by decide)).trans ?_
  simp [separated, writeField, types, writeResourceScope]

/-- A window: the end is sorted before the beginning. -/
theorem encode_time_window (window : RawTimeWindow) :
    (rfc8785 format).encode window.toValue = writeTimeWindow window := by
  refine (encode_fields format ["not_before", "not_after"]
    [dateTimeValue window.notBefore, dateTimeValue window.notAfter]
    [1, 0] rfl (by decide) (by decide)).trans ?_
  simp [separated, writeField, encode_date_time, writeTimeWindow, writeDatetimeField]

/-- The constraints of a grant: one member, nothing to sort. -/
theorem encode_global_constraints (constraints : RawGlobalConstraints) :
    (rfc8785 format).encode constraints.toValue = writeGlobalConstraints constraints := by
  have time :=
    encode_option format constraints.time fun window _ => encode_time_window format window
  refine (encode_fields format ["time"] [optionValue RawTimeWindow.toValue constraints.time]
    [0] rfl (by decide) (by decide)).trans ?_
  simp [separated, writeField, time, writeGlobalConstraints, writeTimeWindowField]

/-- An effect is encoded by its wire name. -/
theorem encode_post_revocation_effect (effect : PostRevocationEffect) :
    (rfc8785 format).encode effect.toValue = writeJsonString effect.wireName := by
  cases effect with
  | blockMintingOnly => exact encode_string format _
  | blockAll => exact encode_string format _

/-- A revocation policy: the effect is sorted to the front. -/
theorem encode_revocation (revocation : RawRevocation) :
    (rfc8785 format).encode revocation.toValue = writeRevocation revocation := by
  refine (encode_fields format ["revocable", "revocation_endpoint", "post_revocation_effect"]
    [.bool revocation.revocable, .string revocation.revocationEndpoint,
      revocation.postRevocationEffect.toValue] [2, 0, 1] rfl (by decide) (by decide)).trans ?_
  simp [separated, writeField, encode_bool, encode_string, encode_post_revocation_effect,
    writeRevocation, writeJsonStringField, writeBoolField]

/-- A policy is encoded by its wire name. -/
theorem encode_supersession_policy (policy : RawSupersessionPolicy) :
    (rfc8785 format).encode policy.toValue = writeSupersessionPolicy policy := by
  cases policy with
  | coexist => exact encode_string format _
  | supersedePrevious => exact encode_string format _

/-- The value that is signed, field by field. To remove one member leaves the others in their
order. -/
theorem remove_signature (document : RawTrustGrantDocument)
    (noProfile : document.interoperabilityProfile = none) :
    document.toValue.remove "signature" = .object
      (["trustgrant_id", "version", "grant_series_id", "revision", "supersedes",
        "supersession_policy", "issuer_authority", "origin_authority",
        "active_owning_authority", "key_id", "target_scope", "capabilities",
        "default_audience_scope", "resource_scope", "global_constraints", "revocation",
        "issued_at", "issuer_principal"].zip
      [.string document.trustgrantId, .number document.version.toNat,
        .string document.grantSeriesId, u64Value document.revision,
        optionValue .string document.supersedes, document.supersessionPolicy.toValue,
        .string document.issuerAuthority, .string document.originAuthority,
        .string document.activeOwningAuthority, .string document.keyId,
        document.targetScope.toValue, document.capabilities.toValue,
        audienceValue document.defaultAudienceScope, document.resourceScope.toValue,
        optionValue RawGlobalConstraints.toValue document.globalConstraints,
        optionValue RawRevocation.toValue document.revocation,
        dateTimeValue document.issuedAt,
        optionValue RawPrincipal.toValue document.issuerPrincipal]) := by
  simp [RawTrustGrantDocument.toValue, Json.remove, noProfile, profileMember]

/-- The writer of documents is the generic encoding of the value without its signature. The
fields are compared one by one; the condition on integers is the one under which the encoding of
numbers is the decimal one. -/
theorem encode_document (document : RawTrustGrantDocument)
    (noProfile : document.interoperabilityProfile = none) (safe : document.SafeIntegers) :
    (rfc8785 format).encode (document.toValue.remove "signature") =
      writeTrustgrantDocument document := by
  have revision := encode_u64 format document.revision safe.revision
  have supersedes := encode_option format document.supersedes fun text _ =>
    encode_string format text
  have resources := encode_resource_scope format document.resourceScope safe.minting
  have globals := encode_option format document.globalConstraints fun constraints _ =>
    encode_global_constraints format constraints
  have revocation := encode_option format document.revocation fun inner _ =>
    encode_revocation format inner
  have principal := encode_option format document.issuerPrincipal fun inner _ =>
    encode_principal format inner
  rw [remove_signature document noProfile]
  refine (encode_fields format _ _ [8, 11, 12, 14, 2, 16, 6, 17, 9, 7, 13, 3, 15, 4, 5, 10, 0, 1]
    rfl (by decide) (by decide)).trans ?_
  delta writeTrustgrantDocument
  simp only [separated, List.flatMap_cons, List.flatMap_nil, List.getD_cons_zero,
    List.getD_cons_succ, List.cons_append, List.append_assoc, List.append_nil]
  simp only [writeField, encode_string, encode_u8, revision, supersedes,
    encode_supersession_policy, encode_scope, encode_capabilities, encode_audience, resources,
    globals, revocation, encode_date_time, principal, writeJsonStringField,
    writeCapabilitiesField, writeAudienceScopeField, writeGlobalConstraintsField,
    writeDatetimeField, writePrincipalField, writeResourceScopeField, writeU64Field,
    writeRevocationField, writeOptionalStringField, writeSupersessionPolicyField,
    writeScopeField, writeU8Field]

end Records

/-! ## Canonical bytes -/

/-- Numbers written by their digits. -/
def plainNumbers : NumberFormat := ⟨Decimal.digits, fun _ _ => rfl⟩

/-- With plain numbers a text determines its value. A number ends where no digit follows, so it
can be told from what comes after it. -/
theorem plain_readable : (rfc8785 plainNumbers).Readable Decimal.NonDigit where
  commaStops := rfl
  bracketStops := rfl
  braceStops := rfl
  strings := by
    have same : (rfc8785 plainNumbers).writeString = writeJsonString :=
      funext (encode_string plainNumbers)
    rw [same]
    exact write_json_string_code
  quoted := fun _ => ⟨_, rfl⟩
  numbers := Decimal.digits_terminated
  digits := by
    intro value
    cases written : Decimal.digits value with
    | nil => exact absurd written Nat.toDigits_ne_nil
    | cons first rest =>
      exact ⟨first, rest, written, Decimal.digits_are_digits value first
        (written ▸ List.mem_cons_self)⟩

/-- The signed bytes of a document without a profile are those of the generic encoding, and
every object of the value they are the text of lists its members in strictly increasing
order.

Proof: the writer is compared with the encoding field by field. A value with the same bytes is
the sorted one, as canonical texts determine their values, and sorting leaves the members of
every object in increasing order. -/
theorem canonical_bytes_generic (format : NumberFormat) (rawDocument : RawTrustGrantDocument)
    (noProfile : rawDocument.interoperabilityProfile = none)
    (safe : rawDocument.SafeIntegers) :
    canonicalizeTrustgrant rawDocument .rfc8785 = .ok ⟨(String.ofList
        ((rfc8785 format).encode (rawDocument.toValue.remove "signature"))).toUTF8⟩ ∧
      ∀ emitted : Json, canonicalizeTrustgrant rawDocument .rfc8785 =
          .ok ⟨(String.ofList ((rfc8785 plainNumbers).write emitted)).toUTF8⟩ →
        (rfc8785 plainNumbers).Increasing emitted := by
  have generic := fun numbers => encode_document numbers rawDocument noProfile safe
  constructor
  · rw [generic format]
    rfl
  · intro emitted sameBytes
    have sameText : writeTrustgrantDocument rawDocument = (rfc8785 plainNumbers).write emitted := by
      simp only [canonicalizeTrustgrant, canonicalizeJsonV0, Except.ok.injEq,
        CanonicalTrustGrantBytes.mk.injEq, String.toUTF8_eq_toByteArray, String.toByteArray_inj,
        String.ofList_inj] at sameBytes
      exact sameBytes
    -- the sorted value has the same text, so it is the emitted one
    have sorted :
        (rfc8785 plainNumbers).sorted (rawDocument.toValue.remove "signature") = emitted :=
      CanonicalForm.write_injective plain_readable ((generic plainNumbers).trans sameText)
    rw [← sorted]
    exact CanonicalForm.sorted_increasing _ _

/-- A small document with two types whose names are ordered otherwise by their bytes. -/
def smallAstral : RawTrustGrantDocument :=
  { smallDocument ⟨true, none, none⟩ none none with
    resourceScope := ⟨.ofEntries ([0xFF5E, 0x1F600].map fun code =>
      (⟨String.ofList [Char.ofNat code]⟩, {
        all := true
        allow := none
        deny := some [smallSelector "a"]
        capabilities := ⟨some true, none⟩
        constraints := ⟨⟨some 9007199254740991, none⟩, none⟩
        operations := none }))⟩ }

/-- On this document, whose two type names are ordered differently by code points and by UTF-16
code units, the writer and the generic encoding agree. The names are given in the order of the
code points, and the writer sorts its members by code units. -/
theorem small_astral_generic : canonicalizeTrustgrant smallAstral .rfc8785 = .ok ⟨(String.ofList
    ((rfc8785 plainNumbers).encode (smallAstral.toValue.remove "signature"))).toUTF8⟩ :=
  (canonical_bytes_generic plainNumbers smallAstral rfl (by decide)).1

end TrustGrant
