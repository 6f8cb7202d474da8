import TrustGrant.Error.Errors
import TrustGrant.Library.Results
import Mathlib.Order.Defs.LinearOrder

/-!
# Validated names

Every name of the protocol is a token: trimmed, non-empty, within a byte limit and
free of white space and control characters. The kinds of names differ only in the
field they report and in their limit, so they share one type indexed by both; a
value of the type carries the proof that it is such a token.

A selector kind keeps its spelling beside its classification. Two kinds are the
same when both are the same built-in kind, however they are spelled, or when both
are user-defined and spelled alike.
-/

namespace TrustGrant

open Rust Limits Library

/-- The first character that may not stand in a token. -/
def findBlank (text : String) : Option Char :=
  text.toList.find? fun c => Text.isControl c || Text.isWhitespace c

/-- The search finds nothing exactly in tokens. -/
theorem find_blank_none_iff (text : String) : findBlank text = none ↔ Text.IsToken text := by
  simp [findBlank, List.find?_eq_none, Text.IsToken, Text.isTokenChar]

/-- Trim a value and reject it when nothing remains. -/
def normalizeNonEmpty (fieldName value : String) : Except TrustGrantError String := do
  let trimmed := Text.trim value
  Results.rejectIf (Text.isEmpty trimmed) (.emptyStringField fieldName)
  return trimmed

/-- Trim a value, reject it when nothing remains and bound its length. -/
def normalizeNonEmptyWithin (fieldName value : String) (maxBytes : Nat) :
    Except TrustGrantError String := do
  let trimmed ← normalizeNonEmpty fieldName value
  ensureStringLimit fieldName trimmed maxBytes
  return trimmed

/-- Trim a value, bound its length and reject white space and control characters
inside it. -/
def normalizeNonEmptyToken (fieldName value : String) (maxBytes : Nat) :
    Except TrustGrantError String := do
  let trimmed ← normalizeNonEmpty fieldName value
  ensureStringLimit fieldName trimmed maxBytes
  Results.rejectFound (findBlank trimmed) (.invalidStringFieldCharacter fieldName)
  return trimmed

/-- A normalized value is the trimmed input, when something remains of it. It is the first step
of every validator of names. -/
theorem normalize_non_empty_ok_iff (fieldName value trimmed : String) :
    normalizeNonEmpty fieldName value = .ok trimmed ↔
      trimmed = Text.trim value ∧ Text.isEmpty trimmed = false := by
  simp only [normalizeNonEmpty, Results.bind_ok_iff, Results.reject_if_ok_iff,
    Results.pure_ok_iff, exists_const, Bool.not_eq_true]
  constructor
  · rintro ⟨present, rfl⟩
    exact ⟨rfl, present⟩
  · rintro ⟨rfl, present⟩
    exact ⟨present, rfl⟩

/-- A bounded value is the trimmed input, when that is not empty and within the limit. The length
is that of what remains, so blanks around it do not count. -/
theorem normalize_non_empty_within_ok_iff (fieldName value : String) (maxBytes : Nat)
    (trimmed : String) :
    normalizeNonEmptyWithin fieldName value maxBytes = .ok trimmed ↔
      trimmed = Text.trim value ∧ Text.isEmpty trimmed = false ∧ Text.len trimmed ≤ maxBytes := by
  simp only [normalizeNonEmptyWithin, Results.bind_ok_iff, normalize_non_empty_ok_iff,
    ensure_string_limit_ok_iff, Results.pure_ok_iff, exists_const]
  constructor
  · rintro ⟨text, ⟨isTrimmed, present⟩, within, rfl⟩
    exact ⟨isTrimmed, present, within⟩
  · rintro ⟨isTrimmed, present, within⟩
    exact ⟨trimmed, ⟨isTrimmed, present⟩, within, rfl⟩

/-- What a normalized token is: exactly the trimmed input, when that is acceptable. The search
for a forbidden character finds none exactly when all are allowed. -/
theorem normalize_non_empty_token_ok_iff (fieldName value : String) (maxBytes : Nat)
    (token : String) :
    normalizeNonEmptyToken fieldName value maxBytes = .ok token ↔
      token = Text.trim value ∧ Text.isEmpty token = false ∧ Text.len token ≤ maxBytes ∧
        Text.IsToken token := by
  simp only [normalizeNonEmptyToken, Results.bind_ok_iff, normalize_non_empty_ok_iff,
    ensure_string_limit_ok_iff, Results.reject_found_ok_iff, find_blank_none_iff,
    Results.pure_ok_iff, exists_const]
  constructor
  · rintro ⟨trimmed, ⟨isTrimmed, present⟩, within, allowed, rfl⟩
    exact ⟨isTrimmed, present, within, allowed⟩
  · rintro ⟨isTrimmed, present, within, allowed⟩
    exact ⟨token, ⟨isTrimmed, present⟩, within, allowed, rfl⟩

/-- A validated name: the field it reports errors for and its limit are part of its
type. -/
structure Token (fieldName : String) (maxBytes : Nat) where
  value : String
  nonEmpty : Text.isEmpty value = false
  withinLimit : Text.len value ≤ maxBytes
  token : Text.IsToken value
deriving DecidableEq

namespace Token

variable {fieldName : String} {maxBytes : Nat}

/-- Names are identified by their text. -/
theorem value_injective : Function.Injective (@Token.value fieldName
    maxBytes) := by
  rintro ⟨left, _, _, _⟩ ⟨right, _, _, _⟩ same
  cases same
  rfl

/-- Names are ordered by their text, as their derived `Ord` orders them. -/
instance : LinearOrder (Token fieldName maxBytes) :=
  LinearOrder.lift' Token.value value_injective

/-- Creates a validated name. The checks are made in the order of the source, since each has its
own error. -/
def new (fieldName : String) (maxBytes : Nat) (value : String) :
    Except TrustGrantError (Token fieldName maxBytes) :=
  match accepted : normalizeNonEmptyToken fieldName value maxBytes with
  | .error problem => .error problem
  | .ok text =>
    have normalized := (normalize_non_empty_token_ok_iff _ _ _ _).mp accepted
    .ok ⟨text, normalized.2.1, normalized.2.2.1, normalized.2.2.2⟩

/-- An accepted name is the trimmed input. It is what comparisons of names with texts come down
to. -/
theorem new_value (value : String) (name : Token fieldName maxBytes)
    (accepted : new fieldName maxBytes value = .ok name) : name.value = Text.trim value := by
  unfold new at accepted
  split at accepted
  · cases accepted
  · rename_i text normalized
    cases accepted
    exact ((normalize_non_empty_token_ok_iff _ _ _ _).mp normalized).1

/-- The text of a name is accepted as this name. A token has no white space, so trimming leaves
it alone. -/
theorem new_of_value (name : Token fieldName maxBytes) :
    new fieldName maxBytes name.value = .ok name := by
  have normalized : normalizeNonEmptyToken fieldName name.value maxBytes = .ok name.value :=
    (normalize_non_empty_token_ok_iff _ _ _ _).mpr
      ⟨(Text.trim_token name.value name.token).symm, name.nonEmpty, name.withinLimit, name.token⟩
  unfold new
  split
  · rename_i problem failed
    rw [normalized] at failed
    cases failed
  · rename_i text accepted
    rw [normalized] at accepted
    cases accepted
    rfl

end Token

/-- An operation name used in grant operation scopes. -/
abbrev OperationName := Token "operation" maxOperationNameBytes

/-- The name of an operation. -/
def OperationName.new (value : String) : Except TrustGrantError OperationName :=
  Token.new "operation" maxOperationNameBytes value

/-- The names a custom operation may not use. -/
def isReservedOperation (name : String) : Bool :=
  name == "recognize" || name == "mint" || name == "create"

/-- An application-defined operation name; the built-in names are reserved. That it is none of
them is a field of the type. -/
structure CustomOperationName where
  operationName : OperationName
  notReserved : isReservedOperation operationName.value = false
deriving DecidableEq

/-- A name that is none of the built-in operations. -/
def CustomOperationName.new (value : String) : Except TrustGrantError CustomOperationName :=
  match OperationName.new value with
  | .error problem => .error problem
  | .ok operation =>
    if reserved : isReservedOperation operation.value = false then .ok ⟨operation, reserved⟩
    else .error .reservedOperationName

/-- The text of a custom operation. -/
def CustomOperationName.asStr (name : CustomOperationName) : String := name.operationName.value

/-- The name of a kind of resource. -/
abbrev ResourceTypeName := Token "resource_type" maxResourceTypeNameBytes

/-- The name of a resource type. -/
def ResourceTypeName.new (value : String) : Except TrustGrantError ResourceTypeName :=
  Token.new "resource_type" maxResourceTypeNameBytes value

/-- The identifier of a signing key. -/
abbrev KeyId := Token "key_id" maxKeyIdBytes

/-- The identifier of a key. -/
def KeyId.new (value : String) : Except TrustGrantError KeyId :=
  Token.new "key_id" maxKeyIdBytes value

/-- The kind of an issuer principal. -/
abbrev PrincipalKind := Token "issuer_principal.kind" maxPrincipalKindBytes

/-- The kind of a principal. -/
def PrincipalKind.new (value : String) : Except TrustGrantError PrincipalKind :=
  Token.new "issuer_principal.kind" maxPrincipalKindBytes value

/-- The identifier of an issuer principal within its kind. -/
abbrev PrincipalId := Token "issuer_principal.id" maxPrincipalIdBytes

/-- The identifier of a principal within its kind. -/
def PrincipalId.new (value : String) : Except TrustGrantError PrincipalId :=
  Token.new "issuer_principal.id" maxPrincipalIdBytes value

/-- The built-in selector kinds, and all others. -/
inductive SelectorKindClassification where
  | authority
  | namespace
  | actor
  | other
deriving DecidableEq

/-- Classify a normalized kind by its lower-case spelling. The source lower-cases
with the Unicode tables; no scalar outside ASCII has a lower case made of letters of
the three built-in names, so ASCII lower-casing decides the same comparison. -/
def SelectorKindClassification.fromNormalized (value : String) : SelectorKindClassification :=
  let lowercased := Text.toAsciiLowercase value
  if lowercased = "authority" then .authority
  else if lowercased = "namespace" then .namespace
  else if lowercased = "actor" then .actor
  else .other

/-- A selector kind in its original spelling, with its classification. Kinds are compared by the
classification and kept with the spelling. -/
structure SelectorKind where
  classification : SelectorKindClassification
  value : Token "selector.kind" maxSelectorKindBytes
  classified : classification = .fromNormalized value.value

namespace SelectorKind

/-- A kind from its text. The classification looks at the text without regard to case; the text
itself is kept as it is spelled. -/
def new (value : String) : Except TrustGrantError SelectorKind := do
  let value ← Token.new "selector.kind" maxSelectorKindBytes value
  return ⟨.fromNormalized value.value, value, rfl⟩

/-- The spelling of a kind, which two equal kinds need not share. -/
def asStr (kind : SelectorKind) : String := kind.value.value

/-- The spelling of a kind is accepted as this kind. -/
theorem new_of_as_str (kind : SelectorKind) : new kind.asStr = .ok kind := by
  obtain ⟨classification, value, rfl⟩ := kind
  exact (Results.bind_ok_iff _ _ _).mpr ⟨value, value.new_of_value, rfl⟩

/-- Kind equality: the classification decides, and the spelling among user-defined
kinds. -/
def sameKind (left right : SelectorKind) : Bool :=
  match left.classification, right.classification with
  | .other, .other => left.value = right.value
  | leftClass, rightClass => leftClass = rightClass

/-- `PartialEq` of the source is kind equality, not equality of spellings. -/
instance : BEq SelectorKind := ⟨sameKind⟩

/-- The fixed index slot of a built-in kind. Other kinds have none and are found by a scan. -/
def kindIndex (kind : SelectorKind) : Option Nat :=
  match kind.classification with
  | .authority => some 0
  | .namespace => some 1
  | .actor => some 2
  | .other => none

/-- Kind equality in one line: equal classes, and equal spellings where both are
user-defined. -/
theorem same_kind_iff (left right : SelectorKind) :
    left.sameKind right = true ↔ left.classification = right.classification ∧
      (left.classification = .other → left.asStr = right.asStr) := by
  have spelled : left.value = right.value ↔ left.asStr = right.asStr :=
    Token.value_injective.eq_iff.symm
  unfold sameKind
  cases leftClass : left.classification <;> cases rightClass : right.classification <;>
    simp [spelled]

/-- A kind is itself. -/
theorem same_kind_refl (kind : SelectorKind) : kind.sameKind kind = true :=
  (same_kind_iff kind kind).mpr ⟨rfl, fun _ => rfl⟩

/-- Sameness of kinds goes both ways. -/
theorem same_kind_symm (left right : SelectorKind) (same : left.sameKind right = true) :
    right.sameKind left = true := by
  rw [same_kind_iff] at same ⊢
  exact ⟨same.1.symm, fun other => (same.2 (same.1.trans other)).symm⟩

/-- Sameness of kinds is transitive: built-in kinds are the same by their classification, others
by their spelling. -/
theorem same_kind_trans (first second third : SelectorKind)
    (left : first.sameKind second = true) (right : second.sameKind third = true) :
    first.sameKind third = true := by
  rw [same_kind_iff] at left right ⊢
  exact ⟨left.1.trans right.1, fun other =>
    (left.2 other).trans (right.2 (left.1.symm.trans other))⟩

/-- Kinds spelled alike are the same kind. -/
theorem same_kind_of_spelling (left right : SelectorKind) (spelled : left.asStr = right.asStr) :
    left.sameKind right = true := by
  have sameValue : left.value.value = right.value.value := spelled
  rw [same_kind_iff]
  exact ⟨by rw [left.classified, right.classified, sameValue], fun _ => spelled⟩

/-- Two built-in kinds with one index slot are the same kind. The slots of the built-in kinds
differ, and other kinds have none. -/
theorem same_kind_of_index (left right : SelectorKind) (slot : Nat)
    (leftSlot : left.kindIndex = some slot) (rightSlot : right.kindIndex = some slot) :
    left.sameKind right = true := by
  rw [same_kind_iff]
  unfold kindIndex at leftSlot rightSlot
  cases leftClass : left.classification <;> cases rightClass : right.classification <;>
    simp only [leftClass, rightClass, Option.some.injEq, reduceCtorEq] at leftSlot rightSlot <;>
    first | omega | simp

end SelectorKind

end TrustGrant
