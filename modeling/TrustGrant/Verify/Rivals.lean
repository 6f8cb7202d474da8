import TrustGrant.Ownership.Coverage
import TrustGrant.Verify.Bundle
import TrustGrant.Verify.Consent

/-!
# Rival claims of ownership in one bundle

A bundle keeps the transitions of a grant under the identifier of this grant. The owner of
an accepted grant is where its own chain ends, whatever chains other grants have. So two
accepted grants have one owner exactly when their two chains end at one authority, and a
grant of a former owner without a chain is accepted next to the grant of its successor.

The end of a chain is defined on the wire transitions that the bundle holds. That an
accepted grant's owner is this end is the one lemma from which the equivalence follows.
-/

namespace TrustGrant

open Rust Library

/-- The transitions that a bundle holds for a grant. -/
def TrustGrantProofBundle.chainOf (bundle : TrustGrantProofBundle) (grant : VerifiedTrustGrant) :
    List RawOwnershipTransitionDocument :=
  (bundle.ownershipTransitionChains.lookup grant.id).getD []

/-- Where a chain ends: at the successor that its last transition names, or at the origin when
there is none. -/
def chainEnd (mapping : Text.CaseMapping) (origin : AuthorityId)
    (chain : List RawOwnershipTransitionDocument) : Except TrustGrantError AuthorityId :=
  match chain.getLast? with
  | none => .ok origin
  | some last => AuthorityId.new mapping last.toAuthority

/-- The owner that a grant was verified with. -/
def VerifiedTrustGrant.activeOwner (grant : VerifiedTrustGrant) : AuthorityId :=
  grant.metadata.ownership.activeOwningAuthority

variable {mapping : Text.CaseMapping} {verifier : SignatureVerifier}
  {context : VerificationContext}

/-- The last of two paired lists are paired. The induction is on the pairing. -/
theorem paired_last {α β : Type} {related : α → β → Prop} {inputs : List α} {outputs : List β}
    (paired : List.Forall₂ related inputs outputs) (last : β) (isLast : last ∈ outputs.getLast?) :
    ∃ input ∈ inputs.getLast?, related input last := by
  induction paired with
  | nil => cases isLast
  | cons first rest inductionHypothesis =>
    cases rest with
    | nil =>
      cases isLast
      exact ⟨_, rfl, first⟩
    | cons second later =>
      rw [List.getLast?_cons_cons] at isLast
      obtain ⟨input, isInput, both⟩ := inductionHypothesis isLast
      rw [List.getLast?_cons_cons]
      exact ⟨input, isInput, both⟩

/-- The chain of an accepted document ends at its owner. The ownership that was established
is the end of a linear history, whose last transition was read from the last document of the
chain. -/
theorem chain_ends_at_owner {rawDocument : RawTrustGrantDocument} {sources : VerificationSources}
    {artifacts : VerificationArtifacts}
    (accepted : verifyRawDocumentWithSources mapping rawDocument verifier sources context =
      .ok artifacts) :
    ∃ document chain, artifacts.verifiedGrant.document = .ofValidated document ∧
      sources.ownershipSource document context = .ok chain ∧
      chainEnd mapping artifacts.verifiedGrant.metadata.ownership.originAuthority chain =
        .ok artifacts.verifiedGrant.activeOwner := by
  obtain ⟨document, chain, transitions, -, isDocument, supplied, consented, -, origin, ended⟩ :=
    ownership_of_accepted accepted
  refine ⟨document, chain, isDocument, supplied, ?_⟩
  rcases ended with ⟨rfl, static⟩ | ⟨present, leads⟩
  · rw [origin, ← static]
    rfl
  · cases reached : transitions.getLast? with
    | none =>
      rw [List.getLast?_eq_none_iff] at reached
      subst reached
      exact absurd (List.forall₂_nil_right_iff.mp consented) present
    | some last =>
      obtain ⟨raw, isLast, both⟩ := paired_last consented last reached
      have owner := leads.ends last.parties (by rw [List.getLast?_map, reached]; rfl)
      rw [chainEnd, Option.mem_def.mp isLast]
      exact both.made.toAuthority.trans (congrArg Except.ok owner)

/-- The same, for a document that is accepted with a bundle: its chain is the one that the
bundle holds under its identifier. -/
theorem bundled_chain_ends_at_owner {fromStr : String → Option RawTrustGrantDocument}
    {json : String} {bundle : TrustGrantProofBundle} {artifacts : VerificationArtifacts}
    (accepted : verifyJsonStrWithBundle mapping fromStr json verifier bundle context =
      .ok artifacts) :
    chainEnd mapping artifacts.verifiedGrant.metadata.ownership.originAuthority
        (bundle.chainOf artifacts.verifiedGrant) = .ok artifacts.verifiedGrant.activeOwner := by
  obtain ⟨rawDocument, -, verified⟩ := (Results.bind_ok_iff _ _ _).mp accepted
  obtain ⟨document, chain, isDocument, supplied, ended⟩ := chain_ends_at_owner verified
  obtain ⟨-, -, isChain⟩ := (Results.bind_ok_iff _ _ _).mp supplied
  obtain rfl := (Results.pure_ok_iff _ _).mp isChain
  rw [TrustGrantProofBundle.chainOf, VerifiedTrustGrant.id, VerifiedTrustGrant.lineage, isDocument]
  exact ended

/-- The owner of an accepted grant is where the chain ends that the bundle holds under the
identifier of this grant, its origin when there is none; no other chain is looked at. So two
grants with one origin that are accepted with one bundle have one owner exactly when their two
chains end at one authority, in particular when the bundle holds one chain for both.

Proof: the pipeline looks up the chain under the identifier of the grant, and an accepted chain
ends at the owner. Everything else is about the equality of two ends. -/
theorem same_owner_iff {fromStr : String → Option RawTrustGrantDocument}
    {leftJson rightJson : String} {bundle : TrustGrantProofBundle}
    {left right : VerificationArtifacts}
    (leftAccepted : verifyJsonStrWithBundle mapping fromStr leftJson verifier bundle context =
      .ok left)
    (rightAccepted : verifyJsonStrWithBundle mapping fromStr rightJson verifier bundle context =
      .ok right)
    (sameOrigin : left.verifiedGrant.metadata.ownership.originAuthority =
      right.verifiedGrant.metadata.ownership.originAuthority) :
    (chainEnd mapping left.verifiedGrant.metadata.ownership.originAuthority
          (bundle.chainOf left.verifiedGrant) = .ok left.verifiedGrant.activeOwner ∧
      chainEnd mapping right.verifiedGrant.metadata.ownership.originAuthority
          (bundle.chainOf right.verifiedGrant) = .ok right.verifiedGrant.activeOwner) ∧
    (left.verifiedGrant.activeOwner = right.verifiedGrant.activeOwner ↔
      chainEnd mapping left.verifiedGrant.metadata.ownership.originAuthority
          (bundle.chainOf left.verifiedGrant) =
        chainEnd mapping right.verifiedGrant.metadata.ownership.originAuthority
          (bundle.chainOf right.verifiedGrant)) ∧
    (bundle.chainOf left.verifiedGrant = bundle.chainOf right.verifiedGrant →
      left.verifiedGrant.activeOwner = right.verifiedGrant.activeOwner) := by
  have leftEnds := bundled_chain_ends_at_owner leftAccepted
  have rightEnds := bundled_chain_ends_at_owner rightAccepted
  have agree : left.verifiedGrant.activeOwner = right.verifiedGrant.activeOwner ↔
      chainEnd mapping left.verifiedGrant.metadata.ownership.originAuthority
          (bundle.chainOf left.verifiedGrant) =
        chainEnd mapping right.verifiedGrant.metadata.ownership.originAuthority
          (bundle.chainOf right.verifiedGrant) := by
    rw [leftEnds, rightEnds, Except.ok.injEq]
  refine ⟨⟨leftEnds, rightEnds⟩, agree, fun sameChain => agree.mpr ?_⟩
  rw [sameOrigin, sameChain]

/-- The small document about the transferred item under another identifier, issued by one
authority as the owner. -/
def smallClaimedBy (authority : String) : RawTrustGrantDocument :=
  { smallTransferred with
    trustgrantId := "tg_123e4567-e89b-12d3-a456-426614174009"
    issuerAuthority := authority
    activeOwningAuthority := authority }

/-- The text of a document: its signed members and its signature. -/
def smallText (rawDocument : RawTrustGrantDocument) : List Char :=
  (writeTrustgrantDocument rawDocument).dropLast ++
    ',' :: writeJsonStringField "signature" rawDocument.signature ++ [Json.closeBrace]

/-- The text of a small document. -/
def smallJson (rawDocument : RawTrustGrantDocument) : String := .ofList (smallText rawDocument)

/-- The documents that are published: the one that was handed over, and one for each of the two
authorities that claim the resource for itself. -/
def smallDocuments : List RawTrustGrantDocument :=
  [smallTransferred, smallClaimedBy "did:i", smallClaimedBy "did:j"]

/-- Reading the texts of the small documents. -/
def smallFromStr (json : String) : Option RawTrustGrantDocument :=
  smallDocuments.find? fun rawDocument => smallText rawDocument = json.toList

/-- Among items with different images each is found by its own. The induction is on the items. -/
theorem find_of_apart {α β : Type} [DecidableEq β] (image : α → β) (items : List α)
    (apart : items.Pairwise fun left right => image left ≠ image right) (item : α)
    (inside : item ∈ items) :
    items.find? (fun other => image other = image item) = some item := by
  induction items with
  | nil => cases inside
  | cons first rest inductionHypothesis =>
    obtain ⟨different, apartRest⟩ := List.pairwise_cons.mp apart
    rcases List.mem_cons.mp inside with rfl | later
    · simp
    · rw [List.find?_cons, decide_eq_false (different item later)]
      exact inductionHypothesis apartRest later

/-- The small documents are read from their texts. These are different texts, so each finds its
own document. -/
theorem small_json_read (rawDocument : RawTrustGrantDocument)
    (known : rawDocument ∈ smallDocuments) :
    RawTrustGrantDocument.parseJsonStr smallFromStr (smallJson rawDocument) =
      .ok rawDocument := by
  have facts : (∀ document ∈ smallDocuments, 4 * (smallText document).length ≤ 65536) ∧
      smallDocuments.Pairwise fun left right => smallText left ≠ smallText right := by
    decide +kernel
  obtain ⟨short, apart⟩ := facts
  have within := (Text.len_of_list_le (smallText rawDocument)).trans (short rawDocument known)
  rw [RawTrustGrantDocument.parseJsonStr, Results.bind_ok_iff]
  refine ⟨(), (Results.reject_if_ok_iff _ _ _).mpr (Nat.not_lt.mpr within), ?_⟩
  rw [Results.ok_or_ok_iff, smallFromStr, smallJson, String.toList_ofList]
  exact find_of_apart smallText smallDocuments apart rawDocument known

/-- A bundle that knows the keys of both authorities and holds one chain under each of the
given identifiers. -/
def smallBundle (trustgrantIds : List String) : Except TrustGrantError TrustGrantProofBundle := do
  let documents ← ["did:i", "did:j"].mapM fun authority =>
    AuthorityDiscoveryDocument.tryFrom Text.asciiCaseMapping
      ⟨authority, [⟨"k", "a", "p", smallInstant, smallInstant⟩], ⟨"f", "RFC8785"⟩, none, none,
        smallInstant, none⟩
  let bundle ← documents.foldlM TrustGrantProofBundle.insertDiscoveryDocument .empty
  trustgrantIds.foldlM (fun bundle trustgrantId => do
    bundle.insertOwnershipTransitionChain (← TrustGrantId.fromStr trustgrantId)
      [smallTransition]) bundle

/-- The bundle holds the chain for the transferred document only. -/
def smallBundleOfOne : TrustGrantProofBundle :=
  Results.valueOf (smallBundle [smallTransferred.trustgrantId]) (by decide +kernel)

/-- The bundle holds the chain for the transferred document and for the other one. -/
def smallBundleOfTwo : TrustGrantProofBundle :=
  Results.valueOf (smallBundle [smallTransferred.trustgrantId,
    (smallClaimedBy "did:j").trustgrantId]) (by decide +kernel)

/-- What verification with a bundle makes of an accepted small document. -/
def smallVerified (bundle : TrustGrantProofBundle) (rawDocument : RawTrustGrantDocument)
    (accepted : (verifyRawDocumentWithSources Text.asciiCaseMapping rawDocument smallVerifier
      bundle.asSources smallContext).isOk = true) : VerificationArtifacts :=
  Results.valueOf (verifyRawDocumentWithSources Text.asciiCaseMapping rawDocument smallVerifier
    bundle.asSources smallContext) accepted

/-- An accepted small document is accepted from its text. It is how the small results on
documents become results on texts. -/
theorem small_verified_eq (bundle : TrustGrantProofBundle) (rawDocument : RawTrustGrantDocument)
    (known : rawDocument ∈ smallDocuments)
    (accepted : (verifyRawDocumentWithSources Text.asciiCaseMapping rawDocument smallVerifier
      bundle.asSources smallContext).isOk = true) :
    verifyJsonStrWithBundle Text.asciiCaseMapping smallFromStr (smallJson rawDocument)
      smallVerifier bundle smallContext = .ok (smallVerified bundle rawDocument accepted) := by
  rw [verifyJsonStrWithBundle, verifyJsonStrWithSources, Results.bind_ok_iff]
  exact ⟨rawDocument, small_json_read rawDocument known, Results.value_of_eq _ accepted⟩

/-- With the chain held for both, both documents have the successor as their owner. The bundle
holds one chain for both, so the last part of the theorem applies. -/
theorem small_claims_agree :
    (smallVerified smallBundleOfTwo smallTransferred
        (by decide +kernel)).verifiedGrant.activeOwner =
      (smallVerified smallBundleOfTwo (smallClaimedBy "did:j")
        (by decide +kernel)).verifiedGrant.activeOwner :=
  (same_owner_iff (small_verified_eq smallBundleOfTwo smallTransferred (by decide +kernel) _)
    (small_verified_eq smallBundleOfTwo (smallClaimedBy "did:j") (by decide +kernel) _)
    (by decide +kernel)).2.2 (by decide +kernel)

/-- With the chain held for the transferred document only, it is still accepted, and so is
the one of the former owner. -/
theorem transferred_accepted :
    (verifyRawDocumentWithSources Text.asciiCaseMapping smallTransferred smallVerifier
      smallBundleOfOne.asSources smallContext).isOk = true := by
  decide +kernel

/-- The former owner is accepted from the bundle that holds no chain for its grant. -/
theorem former_owner_accepted :
    (verifyRawDocumentWithSources Text.asciiCaseMapping (smallClaimedBy "did:i") smallVerifier
      smallBundleOfOne.asSources smallContext).isOk = true := by
  decide +kernel

/-- With the chain held for one of them, the documents of the successor and of the former owner
are both accepted. Both admit the item, and they have different owners. The chain is held under
the identifier of the successor's grant, so the other grant is one of a static owner. -/
theorem rival_claims_accepted :
    ∃ left right, verifyJsonStrWithBundle Text.asciiCaseMapping smallFromStr
        (smallJson smallTransferred) smallVerifier smallBundleOfOne smallContext = .ok left ∧
      verifyJsonStrWithBundle Text.asciiCaseMapping smallFromStr
        (smallJson (smallClaimedBy "did:i")) smallVerifier smallBundleOfOne smallContext =
          .ok right ∧
      left.verifiedGrant.metadata.ownership.originAuthority =
        right.verifiedGrant.metadata.ownership.originAuthority ∧
      (∃ leftType, granted left.verifiedGrant smallRecognitionOfTransferred = some leftType ∧
        Admits leftType smallRecognitionOfTransferred.resource.selectors) ∧
      (∃ rightType, granted right.verifiedGrant smallRecognitionOfTransferred = some rightType ∧
        Admits rightType smallRecognitionOfTransferred.resource.selectors) ∧
      left.verifiedGrant.activeOwner ≠ right.verifiedGrant.activeOwner := by
  have facts :
      (smallVerified smallBundleOfOne smallTransferred
          transferred_accepted).verifiedGrant.metadata.ownership.originAuthority =
        (smallVerified smallBundleOfOne (smallClaimedBy "did:i")
          former_owner_accepted).verifiedGrant.metadata.ownership.originAuthority ∧
      (evaluate (smallVerified smallBundleOfOne smallTransferred
        transferred_accepted).verifiedGrant smallRecognitionOfTransferred).decision.isAllowed =
          true ∧
      (evaluate (smallVerified smallBundleOfOne (smallClaimedBy "did:i")
        former_owner_accepted).verifiedGrant smallRecognitionOfTransferred).decision.isAllowed =
          true ∧
      (smallVerified smallBundleOfOne smallTransferred
          transferred_accepted).verifiedGrant.activeOwner ≠
        (smallVerified smallBundleOfOne (smallClaimedBy "did:i")
          former_owner_accepted).verifiedGrant.activeOwner := by
    decide +kernel
  obtain ⟨sameOrigin, leftAllowed, rightAllowed, different⟩ := facts
  exact ⟨_, _,
    small_verified_eq smallBundleOfOne smallTransferred (by decide +kernel) transferred_accepted,
    small_verified_eq smallBundleOfOne (smallClaimedBy "did:i") (by decide +kernel)
      former_owner_accepted,
    sameOrigin, admits_of_allowed _ _ leftAllowed, admits_of_allowed _ _ rightAllowed, different⟩

end TrustGrant
