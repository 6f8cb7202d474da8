import TrustGrant.Domain.Names

/-!
# Authority identifiers

An authority identifier is trimmed, checked, lower-cased and split at its scheme.
Lower-casing uses the Unicode tables, so construction takes the case mapping as a
parameter. The stored value determines the other two fields, and identifiers are
equal exactly when their stored values are.
-/

namespace TrustGrant

open Rust Limits Library

/-- The scheme classes of an authority identifier. Every scheme that is not among the three known
ones is of one class. -/
inductive AuthorityScheme where
  | https
  | did
  | chain
  | other
deriving DecidableEq

/-- Classify a scheme name, ignoring ASCII case. -/
def AuthorityScheme.ofName (schemeName : String) : AuthorityScheme :=
  let name := Text.toAsciiLowercase schemeName
  if name = "https" then .https
  else if name = "did" then .did
  else if name = "chain" then .chain
  else .other

/-- A validated authority identifier. `schemeEnd` is the byte offset of the first
colon of the value. -/
structure AuthorityId where
  value : String
  schemeEnd : Nat
  scheme : AuthorityScheme
  token : Text.IsToken value
  withinLimit : Text.len value ≤ maxAuthorityIdBytes
  located : Text.find value ':' = some schemeEnd
  schemePresent : schemeEnd ≠ 0
  classified : scheme = .ofName (Text.before value ':')

namespace AuthorityId

/-- The checks of the constructor in their order, up to the stored value and the
offset of its colon. -/
def normalize (mapping : Text.CaseMapping) (value : String) :
    Except TrustGrantError (String × Nat) := do
  let trimmed := Text.trim value
  Results.rejectIf (Text.isEmpty trimmed) .emptyAuthorityId
  ensureStringLimit "authority_id" trimmed maxAuthorityIdBytes
  Results.rejectFound (findBlank trimmed) .invalidAuthorityIdCharacter
  let lowercased := mapping.toLowercase trimmed
  ensureStringLimit "authority_id" lowercased maxAuthorityIdBytes
  let schemeEnd ← Results.okOr (Text.find lowercased ':') .invalidAuthorityIdMissingScheme
  Results.rejectIf (schemeEnd = 0) .invalidAuthorityIdMissingScheme
  return (lowercased, schemeEnd)

/-- What an accepted input and its stored value satisfy. The length is checked before and after
lower-casing, because the mapping may lengthen a text. -/
theorem normalize_ok_iff (mapping : Text.CaseMapping) (value : String) (stored : String × Nat) :
    normalize mapping value = .ok stored ↔
      Text.isEmpty (Text.trim value) = false ∧
      Text.len (Text.trim value) ≤ maxAuthorityIdBytes ∧ Text.IsToken (Text.trim value) ∧
      stored.1 = mapping.toLowercase (Text.trim value) ∧
      Text.len stored.1 ≤ maxAuthorityIdBytes ∧ Text.find stored.1 ':' = some stored.2 ∧
      stored.2 ≠ 0 := by
  obtain ⟨lowercased, schemeEnd⟩ := stored
  simp only [normalize, Results.bind_ok_iff, Results.reject_if_ok_iff,
    ensure_string_limit_ok_iff, Results.reject_found_ok_iff, find_blank_none_iff,
    Results.ok_or_ok_iff, Results.pure_ok_iff, exists_const, Bool.not_eq_true, Prod.mk.injEq]
  constructor
  · rintro ⟨present, short, allowed, within, found, located, schemePresent, rfl, rfl⟩
    exact ⟨present, short, allowed, rfl, within, located, schemePresent⟩
  · rintro ⟨present, short, allowed, rfl, within, located, schemePresent⟩
    exact ⟨present, short, allowed, within, schemeEnd, located, schemePresent, rfl, rfl⟩

/-- Creates a validated authority identifier. The length is bounded before and after
lower-casing, since some characters have longer lower-case forms. -/
def new (mapping : Text.CaseMapping) (value : String) : Except TrustGrantError AuthorityId :=
  match accepted : normalize mapping value with
  | .error problem => .error problem
  | .ok (lowercased, schemeEnd) =>
    have checks := (normalize_ok_iff mapping value _).mp accepted
    have token : Text.IsToken lowercased := by
      have lowered : lowercased = mapping.toLowercase (Text.trim value) := checks.2.2.2.1
      rw [lowered]
      exact mapping.keepsTokens _ checks.2.2.1
    .ok ⟨lowercased, schemeEnd, .ofName (Text.before lowercased ':'), token,
      checks.2.2.2.2.1, checks.2.2.2.2.2.1, checks.2.2.2.2.2.2, rfl⟩

/-- The lower-cased text of an authority. -/
def asStr (authority : AuthorityId) : String := authority.value

/-- The stored value determines the identifier. The other two fields are computed from it, and
the rest are proofs. -/
theorem value_injective : Function.Injective AuthorityId.value := by
  rintro ⟨left, leftEnd, leftScheme, _, _, leftLocated, _, leftClass⟩
    ⟨right, rightEnd, rightScheme, _, _, rightLocated, _, rightClass⟩ same
  cases same
  have sameEnd : leftEnd = rightEnd := Option.some.inj (leftLocated.symm.trans rightLocated)
  have sameScheme : leftScheme = rightScheme := leftClass.trans rightClass.symm
  subst sameEnd sameScheme
  rfl

/-- Authorities are compared by their lower-cased texts. -/
instance : DecidableEq AuthorityId := fun left right =>
  decidable_of_iff (left.value = right.value) value_injective.eq_iff

/-- An accepted identifier stores the lower-cased trimmed input, and that input is
a token. -/
theorem new_value (mapping : Text.CaseMapping) (value : String) (authority : AuthorityId)
    (accepted : new mapping value = .ok authority) :
    authority.value = mapping.toLowercase (Text.trim value) ∧ Text.IsToken (Text.trim value) := by
  unfold new at accepted
  split at accepted
  · cases accepted
  · rename_i lowercased schemeEnd normalized
    cases accepted
    have checks := (normalize_ok_iff mapping value _).mp normalized
    exact ⟨checks.2.2.2.1, checks.2.2.1⟩

/-- An identifier that lower-casing leaves alone. -/
def Lowercased (mapping : Text.CaseMapping) (authority : AuthorityId) : Prop :=
  mapping.toLowercase authority.value = authority.value

/-- An accepted identifier is lower-cased. -/
theorem lowercased_of_new (mapping : Text.CaseMapping) (value : String) (authority : AuthorityId)
    (accepted : new mapping value = .ok authority) : authority.Lowercased mapping := by
  rw [Lowercased, (new_value mapping value authority accepted).1, mapping.idempotent]

/-- The text of a lower-cased identifier is accepted as this identifier. Trimming and
lower-casing change nothing, and the checks are those that the identifier carries as proofs. -/
theorem new_of_value (mapping : Text.CaseMapping) (authority : AuthorityId)
    (lowercased : authority.Lowercased mapping) : new mapping authority.value = .ok authority := by
  have trimmed := Text.trim_token authority.value authority.token
  have present : Text.isEmpty authority.value = false := by
    cases empty : Text.isEmpty authority.value with
    | false => rfl
    | true =>
      have noColon : Text.find authority.value ':' = none := by
        simp_all [Text.isEmpty, Text.find]
      rw [authority.located] at noColon
      cases noColon
  have normalized : normalize mapping authority.value =
      .ok (authority.value, authority.schemeEnd) := by
    rw [normalize_ok_iff, trimmed, lowercased]
    exact ⟨present, authority.withinLimit, authority.token, rfl, authority.withinLimit,
      authority.located, authority.schemePresent⟩
  unfold new
  split
  · rename_i problem failed
    rw [normalized] at failed
    cases failed
  · rename_i lowercased schemeEnd accepted
    rw [normalized] at accepted
    cases accepted
    exact congrArg Except.ok (value_injective rfl)

end AuthorityId

/-- The authority a resource comes from and the one that owns it now. A transfer changes the
second and never the first. -/
@[ext] structure OwnershipAuthorityState where
  originAuthority : AuthorityId
  activeOwningAuthority : AuthorityId
deriving DecidableEq

end TrustGrant
