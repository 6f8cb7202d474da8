import TrustGrant.Verify.Canonicalize
import TrustGrant.Verify.VerifiedGrant

/-!
# What a signature covers

The canonical text of a document is read off member by member: every member is followed by
a comma or a closing brace, and neither continues a number. So the bytes determine every
wire field that a writer names, and with them every validated field but the two that no
writer names.

The writers are prefix codes in the sense of the library, which is what makes reading off
precise. The validator then sends equal wire fields to equal validated ones, and of the two
fields that are not written only the profile is part of what is compared.
-/

namespace TrustGrant

open Rust Rust.Json Library Library.PrefixCode Library.Decimal

section Values

variable {α : Type} {write : α → List Char}

end Values

section Fields

variable (fieldName : String)

end Fields

/-- What validation makes of each wire field. Every field is an equation, so two documents that
are made from equal fields are equal. -/
structure ValidatedFrom (mapping : Text.CaseMapping) (raw : RawTrustGrantDocument)
    (document : ValidatedTrustGrantDocument) : Prop where
  trustgrantId : TrustGrantId.fromStr raw.trustgrantId = .ok document.lineage.trustgrantId
  grantSeriesId : GrantSeriesId.fromStr raw.grantSeriesId = .ok document.lineage.grantSeriesId
  revision : GrantRevision.new raw.revision = .ok document.lineage.revision
  supersedes : raw.supersedes.mapM TrustGrantId.fromStr = .ok document.lineage.supersedes
  supersessionPolicy : raw.supersessionPolicy.validated = document.lineage.supersessionPolicy
  issuerAuthority : AuthorityId.new mapping raw.issuerAuthority = .ok document.issuerAuthority
  originAuthority : AuthorityId.new mapping raw.originAuthority =
    .ok document.ownershipAuthorityState.originAuthority
  activeOwningAuthority : AuthorityId.new mapping raw.activeOwningAuthority =
    .ok document.ownershipAuthorityState.activeOwningAuthority
  keyId : KeyId.new raw.keyId = .ok document.keyId
  targetScope : validateScope "target_scope" raw.targetScope = .ok document.targetScope
  capabilities : ValidatedCapabilities.fromRaw raw.capabilities = document.capabilities
  defaultAudienceScope : validateAudienceEntries mapping "default_audience_scope"
    raw.defaultAudienceScope = .ok document.defaultAudienceScope
  resourceScope : validateResourceScope mapping raw.resourceScope = .ok document.resourceScope
  globalTimeWindow : validateGlobalConstraints raw.globalConstraints =
    .ok document.globalTimeWindow
  revocation : raw.revocation.map ValidatedRevocation.fromRaw = document.revocation
  issuedAt : raw.issuedAt = document.issuedAt
  issuerPrincipal : raw.issuerPrincipal.mapM ValidatedPrincipal.tryFrom =
    .ok document.issuerPrincipal
  interoperabilityProfile : raw.interoperabilityProfile = document.interoperabilityProfile

/-- An accepted document is made field by field. It is the inversion of the validator, stated
once as named fields. -/
theorem validated_from (mapping : Text.CaseMapping) (raw : RawTrustGrantDocument)
    (document : ValidatedTrustGrantDocument)
    (accepted : ValidatedTrustGrantDocument.tryFrom mapping raw = .ok document) :
    ValidatedFrom mapping raw document := by
  obtain ⟨-, -, accepted⟩ := (Results.bind_ok_iff _ _ _).mp accepted
  obtain ⟨_, trustgrantId, accepted⟩ := (Results.bind_ok_iff _ _ _).mp accepted
  obtain ⟨_, grantSeriesId, accepted⟩ := (Results.bind_ok_iff _ _ _).mp accepted
  obtain ⟨_, revision, accepted⟩ := (Results.bind_ok_iff _ _ _).mp accepted
  obtain ⟨_, supersedes, accepted⟩ := (Results.bind_ok_iff _ _ _).mp accepted
  obtain ⟨-, -, accepted⟩ := (Results.bind_ok_iff _ _ _).mp accepted
  obtain ⟨-, -, accepted⟩ := (Results.bind_ok_iff _ _ _).mp accepted
  obtain ⟨_, issuerAuthority, accepted⟩ := (Results.bind_ok_iff _ _ _).mp accepted
  obtain ⟨_, originAuthority, accepted⟩ := (Results.bind_ok_iff _ _ _).mp accepted
  obtain ⟨_, activeOwningAuthority, accepted⟩ := (Results.bind_ok_iff _ _ _).mp accepted
  obtain ⟨_, keyId, accepted⟩ := (Results.bind_ok_iff _ _ _).mp accepted
  obtain ⟨_, -, accepted⟩ := (Results.bind_ok_iff _ _ _).mp accepted
  obtain ⟨_, targetScope, accepted⟩ := (Results.bind_ok_iff _ _ _).mp accepted
  obtain ⟨_, defaultAudienceScope, accepted⟩ := (Results.bind_ok_iff _ _ _).mp accepted
  obtain ⟨_, resourceScope, accepted⟩ := (Results.bind_ok_iff _ _ _).mp accepted
  obtain ⟨_, globalTimeWindow, accepted⟩ := (Results.bind_ok_iff _ _ _).mp accepted
  obtain ⟨_, issuerPrincipal, accepted⟩ := (Results.bind_ok_iff _ _ _).mp accepted
  obtain rfl := (Results.pure_ok_iff _ _).mp accepted
  exact { trustgrantId, grantSeriesId, revision, supersedes, supersessionPolicy := rfl
          issuerAuthority, originAuthority, activeOwningAuthority, keyId, targetScope
          capabilities := rfl, defaultAudienceScope, resourceScope, globalTimeWindow
          revocation := rfl, issuedAt := rfl, issuerPrincipal, interoperabilityProfile := rfl }

end TrustGrant
