/-!
# Canonicalization profiles and the order of keys

RFC 8785 orders the members of an object by the UTF-16 code units of their names. Map
keys carry this order, and the profile carries the name under which discovery knows it.

The order is the one of the source's key type, which compares iterators of code units. That
it is a linear order is shown in the next module.
-/

namespace TrustGrant

/-- A map key ordered by its UTF-16 code units. It is a text with another order, and its text is
what is written. -/
structure Utf16Key where
  asStr : String
deriving DecidableEq

namespace Utf16Key

/-- The code units of one scalar value. A supplementary one has two, which are surrogates. -/
def encodeChar (c : Char) : List UInt16 :=
  if c.toNat < 0x10000 then [UInt16.ofNat c.toNat]
  else [UInt16.ofNat (0xD800 + (c.toNat - 0x10000) / 0x400),
    UInt16.ofNat (0xDC00 + (c.toNat - 0x10000) % 0x400)]

/-- `str::encode_utf16`. -/
def encodeUtf16 (text : String) : List UInt16 := text.toList.flatMap encodeChar

/-- Compare code unit by code unit; a proper beginning comes first. -/
def compareUnits : List UInt16 → List UInt16 → Ordering
  | [], [] => .eq
  | [], _ :: _ => .lt
  | _ :: _, [] => .gt
  | left :: lefts, right :: rights =>
    if left < right then .lt else if right < left then .gt else compareUnits lefts rights

/-- The order of keys: by UTF-16 code units, place by place. -/
def cmp (left right : Utf16Key) : Ordering :=
  compareUnits (encodeUtf16 left.asStr) (encodeUtf16 right.asStr)

/-- Keys are ordered by their comparison. -/
instance : LT Utf16Key := ⟨fun left right => left.cmp right = .lt⟩

/-- The order of keys is decided by their comparison. -/
instance (left right : Utf16Key) : Decidable (left < right) :=
  inferInstanceAs (Decidable (left.cmp right = .lt))

end Utf16Key

/-- The canonicalization schemes a signature can be made over. There is one so far. -/
inductive CanonicalizationProfile where
  | rfc8785
deriving DecidableEq

/-- The name of the scheme in signature profiles. -/
def CanonicalizationProfile.discoveryName : CanonicalizationProfile → String
  | .rfc8785 => "RFC8785"

end TrustGrant
