import TrustGrant.Domain.Authority
import TrustGrant.Rust.DateTime

/-!
# Signer bindings

A resolved signer is an authority, one of its keys with the period in which it is active,
and a signature profile; a delegated signer names its principal as well. Names of
algorithms and formats are tokens like the other names of the protocol, while key material
is free text without blanks around it.
-/

namespace TrustGrant

open Rust Limits Library

/-- The name of a signature algorithm. -/
abbrev AlgorithmName := Token "algorithm" maxAlgorithmNameBytes

/-- The name of an algorithm. -/
def AlgorithmName.new (value : String) : Except TrustGrantError AlgorithmName :=
  Token.new "algorithm" maxAlgorithmNameBytes value

/-- The name of a signature format. -/
abbrev SignatureFormat := Token "signature_profile.format" maxSignatureProfileFormatBytes

/-- The name of a signature format. -/
def SignatureFormat.new (value : String) : Except TrustGrantError SignatureFormat :=
  Token.new "signature_profile.format" maxSignatureProfileFormatBytes value

/-- The name of a canonicalization scheme. -/
abbrev CanonicalizationName :=
  Token "signature_profile.canonicalization" maxCanonicalizationNameBytes

/-- The name of a canonicalization. -/
def CanonicalizationName.new (value : String) : Except TrustGrantError CanonicalizationName :=
  Token.new "signature_profile.canonicalization" maxCanonicalizationNameBytes value

/-- Encoded key material. What the encoding means is left to the verifier of signatures. -/
structure PublicKeyMaterial where
  value : String
  trimmed : Text.trim value = value
  nonEmpty : Text.isEmpty value = false
  withinLimit : Text.len value ≤ maxPublicKeyMaterialBytes

/-- Key material is determined by its text. -/
instance : DecidableEq PublicKeyMaterial := fun left right =>
  decidable_of_iff (left.value = right.value) <| by
    cases left
    cases right
    simp

/-- Key material is trimmed and bounded, but may hold any character. -/
def PublicKeyMaterial.new (value : String) : Except TrustGrantError PublicKeyMaterial :=
  match accepted : normalizeNonEmptyWithin "public_key" value maxPublicKeyMaterialBytes with
  | .error problem => .error problem
  | .ok text =>
    have normalized := (normalize_non_empty_within_ok_iff _ _ _ _).mp accepted
    .ok ⟨text, by rw [normalized.1, Text.trim_trim], normalized.2.1, normalized.2.2⟩

/-- The text of key material is accepted as this material. What normalization leaves is
normalized already, so nothing is trimmed and no limit is exceeded the second time. -/
theorem PublicKeyMaterial.new_of_value (material : PublicKeyMaterial) :
    new material.value = .ok material := by
  have normalized : normalizeNonEmptyWithin "public_key" material.value
      maxPublicKeyMaterialBytes = .ok material.value :=
    (normalize_non_empty_within_ok_iff _ _ _ _).mpr
      ⟨material.trimmed.symm, material.nonEmpty, material.withinLimit⟩
  unfold new
  split
  · rename_i problem failed
    rw [normalized] at failed
    cases failed
  · rename_i text accepted
    rw [normalized] at accepted
    cases accepted
    rfl

/-- How signatures of an authority are made. Both parts are names, which verification compares
and does not interpret. -/
structure SignatureProfile where
  format : SignatureFormat
  canonicalization : CanonicalizationName
deriving DecidableEq

/-- A profile from its two names, the format first. -/
def SignatureProfile.new (format canonicalization : String) :
    Except TrustGrantError SignatureProfile := do
  let format ← SignatureFormat.new format
  let canonicalization ← CanonicalizationName.new canonicalization
  return ⟨format, canonicalization⟩

/-- The names in a profile are accepted as this profile. -/
theorem SignatureProfile.new_of_values (profile : SignatureProfile) :
    new profile.format.value profile.canonicalization.value = .ok profile :=
  (Results.bind_ok_iff _ _ _).mpr ⟨_, profile.format.new_of_value,
    (Results.bind_ok_iff _ _ _).mpr ⟨_, profile.canonicalization.new_of_value, rfl⟩⟩

/-- One key of an authority and the period in which it is active. That the period does not end
before it begins is part of the type. -/
structure AuthorityKeyRecord where
  keyId : KeyId
  algorithm : AlgorithmName
  publicKey : PublicKeyMaterial
  notBefore : DateTime
  notAfter : DateTime
  ordered : notBefore ≤ notAfter
deriving DecidableEq

namespace AuthorityKeyRecord

/-- The period is checked before the names. -/
def new (keyId algorithm publicKey : String) (notBefore notAfter : DateTime) :
    Except TrustGrantError AuthorityKeyRecord :=
  if ordered : notBefore ≤ notAfter then do
    let keyId ← KeyId.new keyId
    let algorithm ← AlgorithmName.new algorithm
    let publicKey ← PublicKeyMaterial.new publicKey
    return ⟨keyId, algorithm, publicKey, notBefore, notAfter, ordered⟩
  else .error .invalidKeyValidityWindow

/-- What a key record holds is accepted as this record. -/
theorem new_of_values (record : AuthorityKeyRecord) :
    new record.keyId.value record.algorithm.value record.publicKey.value record.notBefore
      record.notAfter = .ok record := by
  rw [new, dif_pos record.ordered]
  exact (Results.bind_ok_iff _ _ _).mpr ⟨_, record.keyId.new_of_value,
    (Results.bind_ok_iff _ _ _).mpr ⟨_, record.algorithm.new_of_value,
      (Results.bind_ok_iff _ _ _).mpr ⟨_, record.publicKey.new_of_value, rfl⟩⟩⟩

/-- Both ends belong to the period. -/
def isActiveAt (record : AuthorityKeyRecord) (timestamp : DateTime) : Bool :=
  timestamp ≥ record.notBefore && timestamp ≤ record.notAfter

end AuthorityKeyRecord

/-- The principal a signing key was delegated to. -/
structure DelegatedPrincipalRef where
  kind : PrincipalKind
  id : PrincipalId
deriving DecidableEq

/-- A principal that keys are delegated to, the kind first. -/
def DelegatedPrincipalRef.new (kind id : String) :
    Except TrustGrantError DelegatedPrincipalRef := do
  let kind ← PrincipalKind.new kind
  let id ← PrincipalId.new id
  return ⟨kind, id⟩

/-- The names of a principal are accepted as this principal. -/
theorem DelegatedPrincipalRef.new_of_values (principal : DelegatedPrincipalRef) :
    new principal.kind.value principal.id.value = .ok principal :=
  (Results.bind_ok_iff _ _ _).mpr ⟨_, principal.kind.new_of_value,
    (Results.bind_ok_iff _ _ _).mpr ⟨_, principal.id.new_of_value, rfl⟩⟩

/-- The signer that a verification resolved. It names a principal exactly when it was resolved
through delegation. -/
structure ResolvedSignerBinding where
  issuerAuthority : AuthorityId
  keyRecord : AuthorityKeyRecord
  signatureProfile : SignatureProfile
  delegatedPrincipal : Option DelegatedPrincipalRef
deriving DecidableEq

end TrustGrant
