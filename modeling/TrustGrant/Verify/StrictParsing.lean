import TrustGrant.Document.Plain
import TrustGrant.Verify.Bundle

/-!
# What strict parsing loses

A grant that was parsed says the same as its text, when it is written again, exactly when the
text was plain. The types of the capabilities and of the minting limits ignore what they do
not know, so a mistyped limit is lost; of two resource types of one name the first is lost.

The readers are faithful type by type: on what they read, writing again says the same
exactly when the value was plain. The result for a text is the one for the type of grants;
on two small trees, one of which misspells a limit, both sides of it are seen.
-/

namespace TrustGrant

open Rust Rust.Serde Library

/-- A text is parsed when it is within the limit and is read. -/
theorem parse_json_str_ok_iff (fromStr : String → Option RawTrustGrantDocument) (json : String)
    (document : RawTrustGrantDocument) :
    RawTrustGrantDocument.parseJsonStr fromStr json = .ok document ↔
      Text.len json ≤ Limits.maxTrustgrantJsonBytes ∧ fromStr json = some document := by
  simp only [RawTrustGrantDocument.parseJsonStr, ensureJsonSize, Results.bind_ok_iff,
    Results.reject_if_ok_iff, Results.ok_or_ok_iff, not_lt, exists_and_left, exists_const]

/-- A text that is accepted loses nothing exactly when it is plain. Every type of the document
has a shape, which says what its reader skips; by induction on the types, what is read is written
as the tree that was read exactly when nothing was skipped. -/
theorem strict_parsing_keeps_iff (readDateTime : String → Option DateTime)
    (parse : String → Option JsonTree) (json : String) (document : RawTrustGrantDocument)
    (accepted : RawTrustGrantDocument.parseJsonStr
      (RawTrustGrantDocument.fromStr readDateTime parse) json = .ok document) :
    ∃ tree, parse json = some tree ∧
      (tree.SameValue (Respelled readDateTime) document.toValue ↔
        RawTrustGrantDocument.Plain tree) := by
  obtain ⟨_, found⟩ := (parse_json_str_ok_iff _ json document).mp accepted
  obtain ⟨tree, parsed, read⟩ := Option.bind_eq_some_iff.mp found
  refine ⟨tree, parsed, ?_⟩
  rw [same_explicit_value]
  exact RawTrustGrantDocument.faithful.same tree document read

mutual

/-- The text serde_json writes for a value. -/
def writeTree : JsonTree → List Char
  | .null => "null".toList
  | .bool value => (if value then "true" else "false").toList
  | .natural value => Nat.toDigits 10 value
  | .number text => text.toList
  | .string value => Json.writeJsonString value
  | .array items => '[' :: writeTreeItems items ++ [']']
  | .object members => Json.openBrace :: writeTreeMembers members ++ [Json.closeBrace]

/-- Items with commas between them. -/
def writeTreeItems : List JsonTree → List Char
  | [] => []
  | [item] => writeTree item
  | item :: items => writeTree item ++ ',' :: writeTreeItems items

/-- Members with commas between them. -/
def writeTreeMembers : List (String × JsonTree) → List Char
  | [] => []
  | [(name, value)] => Json.writeJsonString name ++ ':' :: writeTree value
  | (name, value) :: members =>
    Json.writeJsonString name ++ ':' :: writeTree value ++ ',' :: writeTreeMembers members

end

/-- The text of a tree. -/
def treeText (tree : JsonTree) : String := .ofList (writeTree tree)

/-- Reading the text of one tree. -/
def readTreeText (tree : JsonTree) (json : String) : Option JsonTree :=
  if json.toList = writeTree tree then some tree else none

/-- Reading noon on 2026-04-07. -/
def readSmallInstant (text : String) : Option DateTime :=
  if text = "2026-04-07T12:00:00Z" then some smallInstant else none

/-- A small grant with one resource type of the given minting limits and with more members. -/
def smallTree (minting more : List (String × JsonTree)) : JsonTree :=
  .object ([("trustgrant_id", .string "tg_123e4567-e89b-12d3-a456-426614174000"),
    ("version", .natural 0),
    ("grant_series_id", .string "tgs_123e4567-e89b-12d3-a456-426614174001"),
    ("revision", .natural 1), ("supersession_policy", .string "coexist"),
    ("issuer_authority", .string "did:i"), ("origin_authority", .string "did:i"),
    ("active_owning_authority", .string "did:i"), ("key_id", .string "k"),
    ("target_scope", .object [("all", .bool true)]),
    ("capabilities", .object [("recognize", .bool true), ("mint", .bool true)]),
    ("resource_scope", .object [("types", .object [("item", .object [("all", .bool true),
      ("allow", .null), ("deny", .null),
      ("capabilities", .object [("recognize", .null), ("mint", .null)]),
      ("constraints", .object [("minting", .object minting)])])])]),
    ("issued_at", .string "2026-04-07T12:00:00Z"), ("signature", .string "s")] ++ more)

/-- The document that is read from it. -/
def smallParsed (maxTotal : Option UInt64) : RawTrustGrantDocument where
  trustgrantId := "tg_123e4567-e89b-12d3-a456-426614174000"
  version := 0
  grantSeriesId := "tgs_123e4567-e89b-12d3-a456-426614174001"
  revision := 1
  supersedes := none
  supersessionPolicy := .coexist
  issuerAuthority := "did:i"
  originAuthority := "did:i"
  activeOwningAuthority := "did:i"
  keyId := "k"
  targetScope := ⟨true, none, none⟩
  capabilities := ⟨true, true⟩
  defaultAudienceScope := none
  resourceScope := ⟨.ofEntries [(⟨"item"⟩,
    ⟨true, none, none, ⟨none, none⟩, ⟨⟨maxTotal, none⟩, none⟩, none⟩)]⟩
  globalConstraints := none
  revocation := none
  issuedAt := smallInstant
  signature := "s"
  issuerPrincipal := none
  interoperabilityProfile := none

/-- The reader of one text reads it as the tree that was written. -/
theorem read_tree_text (tree : JsonTree) : readTreeText tree (treeText tree) = some tree := by
  rw [readTreeText, treeText, String.toList_ofList, if_pos rfl]

/-- A short text is parsed into what its tree is read into. The parser of the small texts knows
one tree. -/
theorem tree_text_parsed (tree : JsonTree) {document : RawTrustGrantDocument}
    {readDateTime : String → Option DateTime} (short : 4 * (writeTree tree).length ≤ 65536)
    (read : RawTrustGrantDocument.fromTree readDateTime tree = some document) :
    RawTrustGrantDocument.parseJsonStr
      (RawTrustGrantDocument.fromStr readDateTime (readTreeText tree)) (treeText tree) =
        .ok document := by
  rw [parse_json_str_ok_iff, RawTrustGrantDocument.fromStr, read_tree_text, Option.bind_some]
  exact ⟨(Text.len_of_list_le (writeTree tree)).trans short, read⟩

/-- The small grant whose only limit has this name. -/
def limitedTree (limit : String) : JsonTree := smallTree [(limit, .natural 5)] []

/-- The limit that is spelled as its type knows it is parsed into a document with the same value.
No member is skipped, so the tree is plain. -/
theorem small_limit_kept :
    RawTrustGrantDocument.parseJsonStr
        (RawTrustGrantDocument.fromStr readSmallInstant (readTreeText (limitedTree "max_total")))
        (treeText (limitedTree "max_total")) = .ok (smallParsed (some 5)) ∧
      (limitedTree "max_total").SameValue (Respelled readSmallInstant)
        (smallParsed (some 5)).toValue := by
  have read : RawTrustGrantDocument.fromTree readSmallInstant (limitedTree "max_total") =
      some (smallParsed (some 5)) := by rfl
  have parsed := tree_text_parsed (limitedTree "max_total") (by decide +kernel) read
  obtain ⟨tree, isTree, kept⟩ := strict_parsing_keeps_iff _ _ _ _ parsed
  obtain rfl := Option.some.inj ((read_tree_text (limitedTree "max_total")).symm.trans isTree)
  refine ⟨parsed, kept.mpr ?_⟩
  simp [limitedTree, smallTree, RawTrustGrantDocument.Plain, RawTrustGrantDocument.shape,
    Shape.Plain, RawResourceScope.Plain, RawResourceScope.shape, PlainMember, List.lookup_cons,
    EveryEntry, RawResourceType.Plain, RawResourceType.shape, RawTypeConstraints.Plain,
    RawTypeConstraints.shape, RawMintingConstraints.Plain, RawMintingConstraints.shape,
    JsonTree.isNull, RawScope.Plain, RawScope.shape, RawCapabilities.Plain, RawCapabilities.shape,
    RawTypeCapabilities.Plain, RawTypeCapabilities.shape, Anything, PlainVariant]
  -- the type sets neither of its capabilities, which it knows by name
  rintro name value (⟨rfl, -⟩ | ⟨rfl, -⟩) notRecognize notMint
  · exact absurd rfl notRecognize
  · exact absurd rfl notMint

/-- A mistyped limit is accepted and lost. The constraints on mints do not deny unknown members,
so the reader skips the member it does not know and the parsed document has no limit. -/
theorem mistyped_limit_lost :
    RawTrustGrantDocument.parseJsonStr
        (RawTrustGrantDocument.fromStr readSmallInstant (readTreeText (limitedTree "max_totl")))
        (treeText (limitedTree "max_totl")) = .ok (smallParsed none) ∧
      readTreeText (limitedTree "max_totl") (treeText (limitedTree "max_totl")) =
        some (limitedTree "max_totl") ∧
      ¬ (limitedTree "max_totl").SameValue (Respelled readSmallInstant)
        (smallParsed none).toValue := by
  have read : RawTrustGrantDocument.fromTree readSmallInstant (limitedTree "max_totl") =
      some (smallParsed none) := by rfl
  refine ⟨tree_text_parsed _ (by decide +kernel) read, read_tree_text _, ?_⟩
  rw [same_explicit_value, RawTrustGrantDocument.faithful.same _ _ read]
  simp [limitedTree, smallTree, RawTrustGrantDocument.Plain, RawTrustGrantDocument.shape,
    Shape.Plain, RawResourceScope.Plain, RawResourceScope.shape, PlainMember, List.lookup_cons,
    EveryEntry, RawResourceType.Plain, RawResourceType.shape, RawTypeConstraints.Plain,
    RawTypeConstraints.shape, RawMintingConstraints.Plain, RawMintingConstraints.shape,
    JsonTree.isNull]

end TrustGrant
