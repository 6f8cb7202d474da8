import TrustGrant.Domain.Canonicalization
import TrustGrant.Library.SortedMap
import TrustGrant.Rust.DateTime

/-!
# Wire documents

The document as it is read from JSON, before any validation. Its resource types are a
map ordered by the UTF-16 code units of their names.

The structures have the fields of the source in their order. What the source keeps as an
optional value is one here, even where an absent value and an empty list are treated alike
later.
-/

namespace TrustGrant

open Rust Library

/-- What becomes of the earlier grants of a series, as far as a wire document can say it. -/
inductive RawSupersessionPolicy where
  | coexist
  | supersedePrevious
deriving DecidableEq

/-- The wire name of a policy. -/
def RawSupersessionPolicy.asStr : RawSupersessionPolicy → String
  | .coexist => "coexist"
  | .supersedePrevious => "supersede_previous"

/-- A principal of an authority, by two texts. Kind and identifier are checked by the
validator. -/
@[ext] structure RawPrincipal where
  kind : String
  id : String
deriving DecidableEq

/-- A selector of a wire document. Nothing ties the flag to the lists yet. -/
@[ext] structure RawSelector where
  kind : String
  all : Bool
  values : Option (List String)
  expressions : Option (List String)
deriving DecidableEq

/-- A scope of a wire document: a flag and two optional lists. An absent list is validated as an
empty one. -/
@[ext] structure RawScope where
  all : Bool
  allow : Option (List RawSelector)
  deny : Option (List RawSelector)
deriving DecidableEq

/-- The capabilities of a grant. Their type is one of those that do not deny unknown members. -/
@[ext] structure RawCapabilities where
  recognize : Bool
  mint : Bool
deriving DecidableEq

/-- An audience authority with its scopes; the authority is a text. -/
@[ext] structure RawAudienceEntry where
  authorityId : String
  scope : RawScope
  principalScope : Option RawScope
deriving DecidableEq

/-- The capabilities of a type, absent where the grant decides. Their type does not deny unknown
members either. -/
@[ext] structure RawTypeCapabilities where
  recognize : Option Bool
  mint : Option Bool
deriving DecidableEq

/-- The limits of a type on what is minted in all and by each principal. An absent limit is no
limit, which is why a misspelled one matters. -/
@[ext] structure RawMintingConstraints where
  maxTotal : Option UInt64
  maxPerUser : Option UInt64
deriving DecidableEq

/-- The constraints of a type. An audience of its own takes the place of that of the grant. -/
@[ext] structure RawTypeConstraints where
  minting : RawMintingConstraints
  audienceScope : Option (List RawAudienceEntry)
deriving DecidableEq

/-- The custom operations of a type, by their names. -/
@[ext] structure RawOperationScope where
  allow : Option (List String)
  deny : Option (List String)
deriving DecidableEq

/-- A resource type of a wire document. Lists that may be left out are optional here, as the
validator treats an absent list like an empty one. -/
@[ext] structure RawResourceType where
  all : Bool
  allow : Option (List RawSelector)
  deny : Option (List RawSelector)
  capabilities : RawTypeCapabilities
  constraints : RawTypeConstraints
  operations : Option RawOperationScope
deriving DecidableEq

/-- The types of a wire document under the names that it gives them, in the order of their UTF-16
code units. -/
@[ext] structure RawResourceScope where
  types : SortedMap Utf16Key RawResourceType
deriving DecidableEq

/-- A time window whose ends may be in either order. -/
@[ext] structure RawTimeWindow where
  notBefore : DateTime
  notAfter : DateTime
deriving DecidableEq

/-- The constraints of a grant, which are a time window at most. -/
@[ext] structure RawGlobalConstraints where
  time : Option RawTimeWindow
deriving DecidableEq

/-- The profile that a grant declares: a name and a version, neither of which is interpreted. -/
structure InteroperabilityProfile where
  name : String
  version : UInt64
deriving DecidableEq

/-- What a revocation blocks: minting, or everything. -/
inductive PostRevocationEffect where
  | blockMintingOnly
  | blockAll
deriving DecidableEq

/-- The revocation policy of a wire document. Its effect is required when it is read, although
the type of effects has a default. -/
@[ext] structure RawRevocation where
  revocable : Bool
  revocationEndpoint : String
  postRevocationEffect : PostRevocationEffect
deriving DecidableEq

/-- The document as issuers publish it. It is what is parsed, signed and validated; the fields
are in the order in which they are declared. -/
@[ext] structure RawTrustGrantDocument where
  trustgrantId : String
  version : UInt8
  grantSeriesId : String
  revision : UInt64
  supersedes : Option String
  supersessionPolicy : RawSupersessionPolicy
  issuerAuthority : String
  originAuthority : String
  activeOwningAuthority : String
  keyId : String
  targetScope : RawScope
  capabilities : RawCapabilities
  defaultAudienceScope : Option (List RawAudienceEntry)
  resourceScope : RawResourceScope
  globalConstraints : Option RawGlobalConstraints
  revocation : Option RawRevocation
  issuedAt : DateTime
  signature : String
  issuerPrincipal : Option RawPrincipal
  interoperabilityProfile : Option InteroperabilityProfile
deriving DecidableEq

end TrustGrant
