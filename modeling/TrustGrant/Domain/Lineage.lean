import TrustGrant.Error.Errors

/-!
# Protocol identifiers and grant lineage

An identifier is a name of its sort, an underscore and a UUID. The sorts differ only
in that name, so they share one type indexed by it. A lineage places one grant in its
series: its revision, the grant it supersedes and the policy between them.
-/

namespace TrustGrant

open Rust Library

/-- A UUID as its 128 bits. Version and variant are not looked at when one is read. -/
structure Uuid where
  bits : BitVec 128
deriving DecidableEq

namespace Uuid

/-- The value of one hexadecimal digit of either case. -/
def hexValue (c : Char) : Option Nat :=
  if '0' ≤ c ∧ c ≤ '9' then some (c.toNat - 48)
  else if 'a' ≤ c ∧ c ≤ 'f' then some (c.toNat - 87)
  else if 'A' ≤ c ∧ c ≤ 'F' then some (c.toNat - 55)
  else none

/-- Thirty-two hexadecimal digits, the highest first. -/
def parseSimple (digits : List Char) : Option Uuid := do
  let values ← digits.mapM hexValue
  if values.length = 32 then
    return ⟨BitVec.ofNat 128 (values.foldl (fun total digit => 16 * total + digit) 0)⟩
  else none

/-- Five groups of digits with hyphens after the digits 8, 12, 16 and 20. -/
def parseHyphenated (text : List Char) : Option Uuid :=
  if text.length = 36 ∧ text[8]? = some '-' ∧ text[13]? = some '-' ∧ text[18]? = some '-' ∧
      text[23]? = some '-' then
    parseSimple (text.take 8 ++ (text.drop 9).take 4 ++ (text.drop 14).take 4 ++
      (text.drop 19).take 4 ++ text.drop 24)
  else none

/-- `Uuid::parse_str`: the plain, hyphenated, braced and URN forms, told apart by
their length. -/
def parseStr (text : String) : Option Uuid :=
  let chars := text.toList
  if chars.length = 32 then parseSimple chars
  else if chars.length = 36 then parseHyphenated chars
  else if chars.length = 38 then
    (Text.stripBoth text (Char.ofNat 0x7B) (Char.ofNat 0x7D)).bind
      fun inner => parseHyphenated inner.toList
  else if chars.length = 45 ∧ Text.startsWith text "urn:uuid:" then
    parseHyphenated (chars.drop 9)
  else none

end Uuid

/-- A UUID of one sort of identifiers. -/
structure PrefixedUuid (expectedPrefix : String) where
  uuid : Uuid
deriving DecidableEq

/-- Read an identifier of one sort from its text. The text is split at its first underscore. -/
def parsePrefixedUuid (value expectedPrefix : String) : Except TrustGrantError Uuid := do
  let (sort, rawUuid) ← Results.okOr (Text.splitOnce value '_') .missingIdSeparator
  Results.rejectIf (sort ≠ expectedPrefix) (.invalidIdPrefix expectedPrefix)
  Results.okOr (Uuid.parseStr rawUuid) .invalidIdUuid

/-- An identifier of one sort from its text. -/
def PrefixedUuid.fromStr (expectedPrefix value : String) :
    Except TrustGrantError (PrefixedUuid expectedPrefix) := do
  return ⟨← parsePrefixedUuid value expectedPrefix⟩

/-- The identifier of one grant. -/
abbrev TrustGrantId := PrefixedUuid "tg"

/-- The identifier of a grant. -/
def TrustGrantId.fromStr (value : String) : Except TrustGrantError TrustGrantId :=
  PrefixedUuid.fromStr "tg" value

/-- The identifier shared by the revisions of a grant. -/
abbrev GrantSeriesId := PrefixedUuid "tgs"

/-- The identifier of a series of grants. -/
def GrantSeriesId.fromStr (value : String) : Except TrustGrantError GrantSeriesId :=
  PrefixedUuid.fromStr "tgs" value

/-- The identifier of one ownership transition. -/
abbrev TransitionId := PrefixedUuid "tgt"

/-- The identifier of a transition. -/
def TransitionId.fromStr (value : String) : Except TrustGrantError TransitionId :=
  PrefixedUuid.fromStr "tgt" value

/-- The identifier shared by the revisions of an ownership transition. -/
abbrev TransitionSeriesId := PrefixedUuid "tgts"

/-- The identifier of a series of transitions. -/
def TransitionSeriesId.fromStr (value : String) : Except TrustGrantError TransitionSeriesId :=
  PrefixedUuid.fromStr "tgts" value

/-- A revision number; revisions start at one. -/
structure GrantRevision where
  get : UInt64
  nonZero : get ≠ 0
deriving DecidableEq

/-- `GrantRevision::new`: revisions count from one. -/
def GrantRevision.new (value : UInt64) : Except TrustGrantError GrantRevision :=
  if nonZero : value ≠ 0 then .ok ⟨value, nonZero⟩ else .error .zeroRevision

/-- The number of a revision is accepted as this revision. -/
theorem GrantRevision.new_of_get (revision : GrantRevision) : new revision.get = .ok revision :=
  dif_pos revision.nonZero

/-- How a revision relates to the earlier ones of its series. The third policy can be stored but
not published. -/
inductive SupersessionPolicy where
  | coexist
  | supersedePrevious
  | explicitRevocationRequired
deriving DecidableEq

/-- One grant within its series. Whether the revision, the superseded grant and the policy fit
together is checked by the validator of documents. -/
@[ext] structure GrantLineage where
  trustgrantId : TrustGrantId
  grantSeriesId : GrantSeriesId
  revision : GrantRevision
  supersedes : Option TrustGrantId
  supersessionPolicy : SupersessionPolicy
deriving DecidableEq

example : (TrustGrantId.fromStr "tg_123e4567-e89b-12d3-a456-426614174000").toOption =
    some ⟨⟨0x123e4567e89b12d3a456426614174000#128⟩⟩ := by decide

end TrustGrant
