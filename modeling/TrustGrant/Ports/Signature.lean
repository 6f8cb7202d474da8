import TrustGrant.Discovery.SignerBinding
import TrustGrant.Domain.Canonicalization

/-!
# The signature port

Signatures are verified outside the core. The verifier is a function of the request that
the core assembles: the exact bytes, the profile they were made under, the resolved signer
and the signature.

Nothing is assumed of the verifier here. What it means that signatures are not forged is an
assumption of the results that speak of it.
-/

namespace TrustGrant

/-- How proof material was obtained. It decides which evidence of a revocation suffices. -/
inductive VerificationPosture where
  | online
  | cached
  | offline
deriving DecidableEq

/-- One request to verify a signature. It holds everything that the answer may depend on. -/
structure SignatureVerificationRequest where
  canonicalBytes : ByteArray
  canonicalizationProfile : CanonicalizationProfile
  signerBinding : ResolvedSignerBinding
  signature : String

/-- `SignatureVerifier::verify_signature`. -/
abbrev SignatureVerifier := SignatureVerificationRequest → Except TrustGrantError Unit

end TrustGrant
