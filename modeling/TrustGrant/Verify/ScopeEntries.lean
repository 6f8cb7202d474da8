import TrustGrant.Document.OwnershipTransition
import TrustGrant.Verify.Reestablished

/-!
# Names that are equal once trimmed

The resource types of a document, of an ownership transition and of a stored grant are each
collected into a map under their trimmed names. Of several blocks whose names are equal
once trimmed only the last one is kept. Nothing is lost exactly when the trimmed names
differ.

One loop collects the entries in all three places, with the spelling of keys and the check
of blocks as parameters. The equivalence is proved for this loop and then applied three
times.
-/

namespace TrustGrant

open Rust Library

section Collecting

variable {κ ν μ : Type} [LT κ]

/-- No two names of a map are equal once trimmed. -/
def TrimmedApart (spell : κ → String) (raw : SortedMap κ ν) : Prop :=
  (raw.entries.map fun entry => Text.trim (spell entry.1)).Nodup

/-- Validation keeps the number of entries, and represents each of them by the entry of its
trimmed name with the validation of this very block. -/
structure KeepsEntries (spell : κ → String) (validate : ν → Except TrustGrantError μ)
    (raw : SortedMap κ ν) (validated : SortedMap ResourceTypeName μ) : Prop where
  count : validated.len = raw.len
  represented : ∀ entry ∈ raw.entries, ∃ name block,
    name.value = Text.trim (spell entry.1) ∧ validate entry.2 = .ok block ∧
      validated.get name = some block

/-- One entry is validated under its name. -/
def EntryMade (spell : κ → String) (validate : ν → Except TrustGrantError μ) (input : κ × ν)
    (output : ResourceTypeName × μ) : Prop :=
  ResourceTypeName.new (spell input.1) = .ok output.1 ∧ validate input.2 = .ok output.2

variable {spell : κ → String} {validate : ν → Except TrustGrantError μ}

omit [LT κ] in
/-- The validated names are the trimmed ones, in the same order. So repetitions can be counted on
the texts. -/
theorem validated_names {inputs : List (κ × ν)} {outputs : List (ResourceTypeName × μ)}
    (made : List.Forall₂ (EntryMade spell validate) inputs outputs) :
    (outputs.map fun output => output.1.value) =
      inputs.map fun input => Text.trim (spell input.1) := by
  induction made with
  | nil => rfl
  | cons first _ inductionHypothesis =>
    rw [List.map_cons, List.map_cons, inductionHypothesis, Token.new_value _ _ first.1]

/-- Collecting validated entries keeps all of them exactly when their trimmed names differ. With
distinct names the map is a permutation of the entries; with equal ones it is shorter. -/
theorem keeps_entries_iff {raw : SortedMap κ ν} {entries : List (ResourceTypeName × μ)}
    (made : List.Forall₂ (EntryMade spell validate) raw.entries entries) :
    KeepsEntries spell validate raw (.ofEntries entries) ↔ TrimmedApart spell raw := by
  have apart : TrimmedApart spell raw ↔ (entries.map Prod.fst).Nodup := by
    rw [TrimmedApart, ← validated_names made, ← List.nodup_map_iff Token.value_injective,
      List.map_map]
    exact Iff.rfl
  have counted : (SortedMap.ofEntries entries).len = raw.len ↔ (entries.map Prod.fst).Nodup := by
    rw [SortedMap.len, SortedMap.len, made.length_eq]
    exact SortedMap.of_entries_len_eq_iff entries
  constructor
  · exact fun kept => apart.mpr (counted.mp kept.count)
  · intro different
    have distinct := apart.mp different
    refine ⟨counted.mpr distinct, fun entry member => ?_⟩
    obtain ⟨⟨name, block⟩, inside, named, valid⟩ := Results.paired_output made entry member
    have collected := (SortedMap.of_entries_perm entries distinct).mem_iff.mpr inside
    exact ⟨name, block, Token.new_value _ _ named, valid, SortedMap.get_of_mem _ _ _ collected⟩

end Collecting

variable {mapping : Text.CaseMapping}

/-- The scope of a document. The keys are texts in the order of their code units. -/
theorem resource_scope_keeps_iff {raw : RawResourceScope}
    {types : SortedMap ResourceTypeName ValidatedResourceType}
    (valid : validateResourceScope mapping raw = .ok types) :
    KeepsEntries Utf16Key.asStr (validateResourceType mapping) raw.types types ↔
      TrimmedApart Utf16Key.asStr raw.types := by
  obtain ⟨-, entries, made, rfl⟩ := (validate_resource_scope_ok_iff _ _ _).mp valid
  exact keeps_entries_iff (made.imp fun _ _ parts =>
    ⟨parts.1, (validate_resource_type_ok_iff _ _ _).mpr parts.2⟩)

/-- The scope of a transition. The validator differs, and the loop is the same. -/
theorem transition_scope_keeps_iff {raw : RawOwnershipTransitionResourceScope}
    {types : SortedMap ResourceTypeName OwnershipResourceScope}
    (valid : validateTransitionScope raw = .ok types) :
    KeepsEntries Utf16Key.asStr validateTransitionResourceType raw.types types ↔
      TrimmedApart Utf16Key.asStr raw.types := by
  simp only [validateTransitionScope, Results.bind_ok_iff, Results.pure_ok_iff,
    Results.map_list_ok_iff] at valid
  obtain ⟨-, -, -, -, entries, made, rfl⟩ := valid
  refine keeps_entries_iff (made.imp fun input output parts => ?_)
  obtain ⟨name, named, block, validBlock, rfl⟩ := parts
  exact ⟨named, validBlock⟩

/-- An accepted transition has the validation of its scope. -/
theorem transition_scope_validated {raw : RawOwnershipTransitionDocument}
    {document : ValidatedOwnershipTransitionDocument}
    (accepted : ValidatedOwnershipTransitionDocument.tryFrom mapping raw = .ok document) :
    validateTransitionScope raw.canonicalResourceScope = .ok document.resourceScope := by
  simp only [ValidatedOwnershipTransitionDocument.tryFrom, Results.bind_ok_iff,
    Results.pure_ok_iff] at accepted
  obtain ⟨-, -, -, -, -, -, -, -, -, -, -, -, -, -, -, -, -, -, -, -, types, valid, -, -, -, -, -,
    -, -, -, rfl⟩ := accepted
  exact valid

/-- The scope of a stored document. Its keys are plain texts. -/
theorem record_scope_keeps_iff {record : NormalizedTrustGrantDocumentRecord}
    {document : NormalizedTrustGrantDocument}
    (read : record.tryToNormalizedDocument mapping = .ok document) :
    KeepsEntries id (fun block => block.tryToValidatedResourceType mapping) record.resourceScope
        document.resourceScope ↔
      TrimmedApart id record.resourceScope := by
  obtain ⟨entries, made, collected⟩ := ((read_document_ok_iff _ _).mp read).resources
  rw [← collected]
  exact keeps_entries_iff (made.imp fun _ _ parts =>
    ⟨parts.1, (read_resource_type_ok_iff _ _).mpr parts.2⟩)

/-- The document of a grant that is read. -/
theorem document_of_grant_read {record : VerifiedTrustGrantRecord} {grant : VerifiedTrustGrant}
    (read : record.tryToVerifiedGrant mapping = .ok grant) :
    record.document.tryToNormalizedDocument mapping = .ok grant.document := by
  simp only [VerifiedTrustGrantRecord.tryToVerifiedGrant, Results.bind_ok_iff,
    Results.pure_ok_iff] at read
  obtain ⟨-, -, document, documentRead, -, -, -, -, rfl⟩ := read
  exact documentRead

/-- An accepted document, an accepted transition and a grant that is read keep every resource
type of what they are made from exactly when its names differ once trimmed. All three insert
validated entries into a map in one loop, and the rule for this loop is applied to each. -/
theorem scope_kept_iff (mapping : Text.CaseMapping) :
    (∀ raw document, ValidatedTrustGrantDocument.tryFrom mapping raw = .ok document →
      (KeepsEntries Utf16Key.asStr (validateResourceType mapping) raw.resourceScope.types
          document.resourceScope ↔
        TrimmedApart Utf16Key.asStr raw.resourceScope.types)) ∧
    (∀ raw document, ValidatedOwnershipTransitionDocument.tryFrom mapping raw = .ok document →
      (KeepsEntries Utf16Key.asStr validateTransitionResourceType
          raw.canonicalResourceScope.types document.resourceScope ↔
        TrimmedApart Utf16Key.asStr raw.canonicalResourceScope.types)) ∧
    (∀ record grant, VerifiedTrustGrantRecord.tryToVerifiedGrant mapping record = .ok grant →
      (KeepsEntries id (fun block => block.tryToValidatedResourceType mapping)
          record.document.resourceScope grant.document.resourceScope ↔
        TrimmedApart id record.document.resourceScope)) :=
  ⟨fun _ _ accepted => resource_scope_keeps_iff (validated_from _ _ _ accepted).resourceScope,
    fun _ _ accepted => transition_scope_keeps_iff (transition_scope_validated accepted),
    fun _ _ read => record_scope_keeps_iff (document_of_grant_read read)⟩

/-- A small block with a given deny list. -/
def smallBlock (deny : Option (List RawSelector)) : RawResourceType where
  all := true
  allow := none
  deny
  capabilities := ⟨none, none⟩
  constraints := ⟨⟨none, none⟩, none⟩
  operations := some ⟨some ["recognize"], none⟩

/-- A small document whose two names are equal once trimmed. Only the first block denies
anything. -/
def smallSpelledTwice : RawTrustGrantDocument :=
  { smallDocument ⟨true, none, none⟩ none none with
    resourceScope := ⟨⟨[(⟨" item"⟩, smallBlock (some [⟨"id", false, some ["a"], none⟩])),
      (⟨"item"⟩, smallBlock none)], by decide +kernel⟩⟩ }

/-- The small document is accepted without the block that denies. Two names of its scope differ
in blanks only, so both blocks are inserted under one key and the last one stays. -/
theorem denying_block_lost :
    ∃ document, ValidatedTrustGrantDocument.tryFrom Text.asciiCaseMapping smallSpelledTwice =
        .ok document ∧
      ¬ KeepsEntries Utf16Key.asStr (validateResourceType Text.asciiCaseMapping)
        smallSpelledTwice.resourceScope.types document.resourceScope ∧
      ∀ entry ∈ document.resourceScope.entries, entry.2.deny = [] := by
  refine ⟨_, Results.value_of_eq (ValidatedTrustGrantDocument.tryFrom Text.asciiCaseMapping
    smallSpelledTwice) (by decide +kernel), fun kept => ?_, by decide +kernel⟩
  exact absurd kept.count (by decide +kernel)

/-- A small document with two names that differ once trimmed, one of them with a space in front. -/
def smallSpelledApart : RawTrustGrantDocument :=
  { smallDocument ⟨true, none, none⟩ none none with
    resourceScope := ⟨⟨[(⟨" item"⟩, smallBlock (some [⟨"id", false, some ["a"], none⟩])),
      (⟨"sword"⟩, smallBlock none)], by decide +kernel⟩⟩ }

/-- A transition with the same two names. -/
def smallTransitionApart : RawOwnershipTransitionDocument :=
  { smallTransition with
    canonicalResourceScope := ⟨⟨[
      (⟨" item"⟩, ⟨false, some [⟨"id", false, some ["a"], none⟩], none⟩),
      (⟨"sword"⟩, ⟨false, some [⟨"id", false, some ["b"], none⟩], none⟩)], by decide +kernel⟩⟩ }

/-- A small record with the same two names. -/
def smallScopedRecord : VerifiedTrustGrantRecord :=
  { smallRecord smallInstant with
    document := { (smallRecord smallInstant).document with
      resourceScope := ⟨[
        (" item", ⟨true, [], [], ⟨none, none⟩, ⟨⟨none, none⟩, []⟩, none⟩),
        ("sword", ⟨true, [], [], ⟨none, none⟩, ⟨⟨none, none⟩, []⟩, none⟩)], by decide +kernel⟩ } }

/-- The document, the transition and the record with these names keep both types. The names
differ once trimmed, though one of them is given with a blank. -/
theorem small_scopes_kept :
    (∃ document, ValidatedTrustGrantDocument.tryFrom Text.asciiCaseMapping smallSpelledApart =
        .ok document ∧
      KeepsEntries Utf16Key.asStr (validateResourceType Text.asciiCaseMapping)
        smallSpelledApart.resourceScope.types document.resourceScope) ∧
    (∃ document, ValidatedOwnershipTransitionDocument.tryFrom Text.asciiCaseMapping
        smallTransitionApart = .ok document ∧
      KeepsEntries Utf16Key.asStr validateTransitionResourceType
        smallTransitionApart.canonicalResourceScope.types document.resourceScope) ∧
    (∃ grant, smallScopedRecord.tryToVerifiedGrant Text.asciiCaseMapping = .ok grant ∧
      KeepsEntries id (fun block => block.tryToValidatedResourceType Text.asciiCaseMapping)
        smallScopedRecord.document.resourceScope grant.document.resourceScope) := by
  obtain ⟨documents, transitions, records⟩ := scope_kept_iff Text.asciiCaseMapping
  have document := Results.value_of_eq (ValidatedTrustGrantDocument.tryFrom Text.asciiCaseMapping
    smallSpelledApart) (by decide +kernel)
  have transition := Results.value_of_eq (ValidatedOwnershipTransitionDocument.tryFrom
    Text.asciiCaseMapping smallTransitionApart) (by decide +kernel)
  have grant := Results.value_of_eq (smallScopedRecord.tryToVerifiedGrant Text.asciiCaseMapping)
    (by decide +kernel)
  have apart : TrimmedApart Utf16Key.asStr smallSpelledApart.resourceScope.types ∧
      TrimmedApart Utf16Key.asStr smallTransitionApart.canonicalResourceScope.types ∧
      TrimmedApart id smallScopedRecord.document.resourceScope := by
    unfold TrimmedApart
    decide +kernel
  exact ⟨⟨_, document, (documents _ _ document).mpr apart.1⟩,
    ⟨_, transition, (transitions _ _ transition).mpr apart.2.1⟩,
    ⟨_, grant, (records _ _ grant).mpr apart.2.2⟩⟩

end TrustGrant
