import TrustGrant.Library.KeyedStore
import TrustGrant.Verify.Bundle

/-!
# The assembly of proof bundles

The four insertions change the bundle in place. Each checks everything first and changes it
last, and each finds an existing entry under the key that it would insert. With the keys of
all four stores in one type the bundle is a store that never replaces, with four sections.

The laws of such stores are proved for the four insertions here, and the rules of the
library then give the results about sequences of insertions: whether all of them succeed,
and what is found afterwards, in whatever order they are made.
-/

namespace TrustGrant

open Rust Limits Library

/-- An entry of one of the four stores. A chain is inserted with its grant. -/
inductive BundleEntry where
  | discoveryDocument (document : AuthorityDiscoveryDocument)
  | delegatedPrincipalDocument (document : DelegatedPrincipalKeyDocument)
  | revocationProof (proof : BundleRevocationProof)
  | ownershipTransitionChain (trustgrantId : TrustGrantId)
      (chain : List RawOwnershipTransitionDocument)
deriving DecidableEq

/-- What an entry is looked up by. -/
inductive BundleKey where
  | discovery (authority : AuthorityId)
  | delegated (authority : AuthorityId) (kind : PrincipalKind) (id : PrincipalId)
  | revocation (trustgrantId : TrustGrantId)
  | chain (trustgrantId : TrustGrantId)
deriving DecidableEq

/-- The stores of a bundle, each with a limit of its own. -/
inductive BundleSection where
  | discoveryDocuments
  | delegatedDocuments
  | revocationProofs
  | ownershipTransitionChains
deriving DecidableEq

/-- What an entry of a bundle is found under. -/
def BundleEntry.key : BundleEntry → BundleKey
  | .discoveryDocument document => .discovery document.authorityId
  | .delegatedPrincipalDocument document =>
    .delegated document.authorityId document.principal.kind document.principal.id
  | .revocationProof proof => .revocation proof.proof.trustgrantId
  | .ownershipTransitionChain trustgrantId _ => .chain trustgrantId

/-- The map of the bundle that a key belongs to. -/
def BundleKey.sectionOf : BundleKey → BundleSection
  | .discovery _ => .discoveryDocuments
  | .delegated _ _ _ => .delegatedDocuments
  | .revocation _ => .revocationProofs
  | .chain _ => .ownershipTransitionChains

/-- How many entries a map of the bundle may have. -/
def BundleSection.limit : BundleSection → Nat
  | .discoveryDocuments => maxBundleDiscoveryDocuments
  | .delegatedDocuments => maxBundleDelegatedPrincipalDocuments
  | .revocationProofs => maxBundleRevocationProofs
  | .ownershipTransitionChains => maxBundleOwnershipTransitionChains

/-- A chain must be short enough; all other entries fit. -/
def BundleEntry.Fits : BundleEntry → Prop
  | .ownershipTransitionChain _ chain => chain.length ≤ maxOwnershipChainLength
  | _ => True

/-- What the four insertions do once the existing entry was looked up. An equal entry is kept,
another one is refused, and without one there has to be room. -/
def insertNewInPlace {ν : Type} [DecidableEq ν] (bundle : TrustGrantProofBundle)
    (existing : Option ν) (entry : ν) (name field : String) (count maxItems : Nat)
    (inserted : TrustGrantProofBundle) : InPlace.Call TrustGrantProofBundle TrustGrantError :=
  match existing with
  | some existing =>
    if existing = entry then (bundle, .ok ())
    else (bundle, .error (.conflictingProofBundleEntry name))
  | none =>
    InPlace.orReturn bundle (ensureCollectionLimit field (count + 1) maxItems) fun _ =>
    (inserted, .ok ())

namespace TrustGrantProofBundle

/-- A call that inserts into a bundle. -/
abbrev Call := InPlace.Call TrustGrantProofBundle TrustGrantError

/-- `insert_discovery_document` as the source writes it: checks that may return early, then a
change of the bundle itself. -/
def insertDiscoveryDocumentInPlace (bundle : TrustGrantProofBundle)
    (document : AuthorityDiscoveryDocument) : Call :=
  insertNewInPlace bundle (bundle.discoveryDocuments.lookup document.authorityId) document
    "discovery_document" "proof_bundle.discovery_documents" bundle.discoveryDocuments.len
    maxBundleDiscoveryDocuments
    { bundle with
      discoveryDocuments := bundle.discoveryDocuments.insert document.authorityId document }

/-- `insert_delegated_principal_document` on the bundle itself. The limit counts the documents of
all authorities and kinds together. -/
def insertDelegatedPrincipalDocumentInPlace (bundle : TrustGrantProofBundle)
    (document : DelegatedPrincipalKeyDocument) : Call :=
  let documents := bundle.delegatedDocuments
  let principalKinds := (documents.lookup document.authorityId).getD ∅
  let principalIds := (principalKinds.lookup document.principal.kind).getD ∅
  insertNewInPlace bundle
    (documents.lookupPrincipal document.authorityId document.principal.kind document.principal.id)
    document "delegated_principal_document" "proof_bundle.delegated_principal_documents"
    (delegatedDocumentCount documents) maxBundleDelegatedPrincipalDocuments
    { bundle with
      delegatedDocuments := documents.insert document.authorityId
        (principalKinds.insert document.principal.kind
          (principalIds.insert document.principal.id document)) }

/-- `insert_revocation_proof` on the bundle itself. -/
def insertRevocationProofInPlace (bundle : TrustGrantProofBundle)
    (proof : BundleRevocationProof) : Call :=
  insertNewInPlace bundle (bundle.revocationProofs.lookup proof.proof.trustgrantId) proof
    "revocation_proof" "proof_bundle.revocation_proofs" bundle.revocationProofs.len
    maxBundleRevocationProofs
    { bundle with
      revocationProofs := bundle.revocationProofs.insert proof.proof.trustgrantId proof }

/-- A chain is bounded before it is looked up. -/
def insertOwnershipTransitionChainInPlace (bundle : TrustGrantProofBundle)
    (trustgrantId : TrustGrantId) (chain : List RawOwnershipTransitionDocument) : Call :=
  InPlace.orReturn bundle
    (ensureCollectionLimit "ownership_transition.chain" chain.length maxOwnershipChainLength)
    fun _ =>
  insertNewInPlace bundle (bundle.ownershipTransitionChains.lookup trustgrantId) chain
    "ownership_transition_chain" "proof_bundle.ownership_transition_chains"
    bundle.ownershipTransitionChains.len maxBundleOwnershipTransitionChains
    { bundle with
      ownershipTransitionChains := bundle.ownershipTransitionChains.insert trustgrantId chain }

/-- Insert one entry of any store. -/
def insertInPlace (bundle : TrustGrantProofBundle) : BundleEntry → Call
  | .discoveryDocument document => bundle.insertDiscoveryDocumentInPlace document
  | .delegatedPrincipalDocument document => bundle.insertDelegatedPrincipalDocumentInPlace document
  | .revocationProof proof => bundle.insertRevocationProofInPlace proof
  | .ownershipTransitionChain trustgrantId chain =>
    bundle.insertOwnershipTransitionChainInPlace trustgrantId chain

/-- The entry under a key. The keys of the four stores are one type here, so that the bundle is
one store. -/
def find (bundle : TrustGrantProofBundle) : BundleKey → Option BundleEntry
  | .discovery authority =>
    (bundle.discoveryDocuments.lookup authority).map .discoveryDocument
  | .delegated authority kind id =>
    (bundle.delegatedDocuments.lookupPrincipal authority kind id).map .delegatedPrincipalDocument
  | .revocation trustgrantId =>
    (bundle.revocationProofs.lookup trustgrantId).map .revocationProof
  | .chain trustgrantId =>
    (bundle.ownershipTransitionChains.lookup trustgrantId).map
      (.ownershipTransitionChain trustgrantId)

/-- The number of entries of a store. -/
def count (bundle : TrustGrantProofBundle) : BundleSection → Nat
  | .discoveryDocuments => bundle.discoveryDocuments.len
  | .delegatedDocuments => delegatedDocumentCount bundle.delegatedDocuments
  | .revocationProofs => bundle.revocationProofs.len
  | .ownershipTransitionChains => bundle.ownershipTransitionChains.len

/-- A bundle as a store of keyed entries. A section is one of the four maps, with its own
limit. -/
def store :
    KeyedStore TrustGrantProofBundle BundleEntry BundleKey BundleSection TrustGrantError where
  key := BundleEntry.key
  sectionOf := BundleKey.sectionOf
  limit := BundleSection.limit
  Fits := BundleEntry.Fits
  empty := .empty
  find := find
  count := count
  insert := insertInPlace

end TrustGrantProofBundle

section InsertNew

variable {ν : Type} [DecidableEq ν] (bundle : TrustGrantProofBundle) (existing : Option ν)
  (entry : ν) (name field : String) (count maxItems : Nat) (inserted : TrustGrantProofBundle)

/-- In place, an insertion is the one that returns the changed bundle. A failure leaves the
bundle as it was. -/
theorem insert_new_in_place :
    insertNewInPlace bundle existing entry name field count maxItems inserted =
      InPlace.ofResult bundle
        (insertNew bundle existing entry name field count maxItems inserted) := by
  unfold insertNewInPlace insertNew
  cases existing with
  | some existing => by_cases same : existing = entry <;> simp [same, InPlace.ofResult]
  | none =>
    cases checked : ensureCollectionLimit field (count + 1) maxItems <;>
      simp [InPlace.ofResult, bind, Except.bind, pure, Except.pure]

/-- An insertion succeeds on an equal entry, and on a new one while there is room. Another entry
under the key is refused. -/
theorem insert_new_in_place_ok_iff :
    (insertNewInPlace bundle existing entry name field count maxItems inserted).2 = .ok () ↔
      existing = some entry ∨ existing = none ∧ count + 1 ≤ maxItems := by
  unfold insertNewInPlace
  cases existing with
  | some existing => by_cases same : existing = entry <;> simp [same]
  | none =>
    by_cases room : count + 1 ≤ maxItems
    · rw [(ensure_collection_limit_ok_iff field _ _ ()).mpr room]
      simp [room]
    · rw [ensureCollectionLimit, Results.rejectIf, if_pos (Nat.lt_of_not_le room)]
      simp [room]

/-- Every check comes before the change. So a failed insertion leaves the bundle as it was. -/
theorem insert_new_in_place_failed (problem : TrustGrantError)
    (failed : (insertNewInPlace bundle existing entry name field count maxItems inserted).2 =
      .error problem) :
    (insertNewInPlace bundle existing entry name field count maxItems inserted).1 = bundle := by
  unfold insertNewInPlace at failed ⊢
  cases existing with
  | some existing => by_cases same : existing = entry <;> simp [same]
  | none =>
    cases checked : ensureCollectionLimit field (count + 1) maxItems with
    | error other => rfl
    | ok done =>
      simp only [checked, InPlace.or_return_ok] at failed
      cases failed

/-- An entry that is there already leaves the bundle as it is, whether or not it equals the new
one. -/
theorem insert_new_in_place_again (present : existing = some entry) :
    (insertNewInPlace bundle existing entry name field count maxItems inserted).1 = bundle := by
  subst present
  simp [insertNewInPlace]

/-- Only the insertion of a new entry changes the bundle. An equal entry is found and kept. -/
theorem insert_new_in_place_inserted (absent : existing = none)
    (succeeded : (insertNewInPlace bundle existing entry name field count maxItems inserted).2 =
      .ok ()) :
    (insertNewInPlace bundle existing entry name field count maxItems inserted).1 = inserted := by
  subst absent
  unfold insertNewInPlace at succeeded ⊢
  cases checked : ensureCollectionLimit field (count + 1) maxItems with
  | error other =>
    simp only [checked, InPlace.or_return_error] at succeeded
    cases succeeded
  | ok done => rfl

end InsertNew

section Counting

variable {κ ν : Type}

/-- The entries of a map, each counted with a weight. -/
def BundleMap.total (weight : ν → Nat) (map : BundleMap κ ν) : Nat :=
  map.entries.foldl (fun total entry => total + weight entry.2) 0

/-- A running total begins with what it is started with. So the total of a list can be computed
from any start. -/
theorem fold_total {α : Type} (weight : α → Nat) (items : List α) (start : Nat) :
    items.foldl (fun total item => total + weight item) start =
      start + items.foldl (fun total item => total + weight item) 0 := by
  induction items generalizing start with
  | nil => rfl
  | cons item rest inductionHypothesis =>
    rw [List.foldl_cons, List.foldl_cons, inductionHypothesis,
      inductionHypothesis (0 + weight item)]
    omega

/-- The documents of all principals are counted per kind and authority. -/
theorem delegated_document_count_eq (documents : DelegatedDocuments) :
    delegatedDocumentCount documents =
      BundleMap.total (fun kinds => BundleMap.total BundleMap.len kinds) documents := by
  unfold delegatedDocumentCount BundleMap.total
  congr 1
  funext total kinds
  exact fold_total (fun ids => BundleMap.len ids.2) kinds.2.entries total

variable [DecidableEq κ]

/-- Insertion adds the weight of its value in place of that of the value it replaces. Stated as a
sum on both sides, since natural numbers know no negative weights. -/
theorem BundleMap.total_insert (weight : ν → Nat) (map : BundleMap κ ν) (key : κ) (value : ν) :
    BundleMap.total weight (map.insert key value) + ((map.lookup key).map weight).getD 0 =
      BundleMap.total weight map + weight value := by
  have erased : ∀ entries : List (Sigma fun _ : κ => ν),
      (entries.kerase key).foldl (fun total entry => total + weight entry.2) 0 +
        ((entries.dlookup key).map weight).getD 0 =
          entries.foldl (fun total entry => total + weight entry.2) 0 := by
    intro entries
    induction entries with
    | nil => rfl
    | cons entry rest inductionHypothesis =>
      obtain ⟨other, stored⟩ := entry
      by_cases same : key = other
      · subst same
        have dropped : (⟨key, stored⟩ :: rest : List (Sigma fun _ : κ => ν)).kerase key = rest :=
          List.kerase_cons_eq rfl
        rw [dropped, List.dlookup_cons_eq, List.foldl_cons, fold_total _ _ (0 + _)]
        simp only [Option.map_some, Option.getD_some]
        omega
      · rw [List.kerase_cons_ne same, List.dlookup_cons_ne _ _ same, List.foldl_cons,
          List.foldl_cons, fold_total _ _ (0 + _), fold_total _ rest (0 + _)]
        omega
  have removed := erased map.entries
  unfold BundleMap.total
  rw [AList.entries_insert, List.foldl_cons, fold_total _ _ (0 + _)]
  change 0 + weight value + _ + ((map.entries.dlookup key).map weight).getD 0 = _
  omega

/-- Insertion changes the lookup of its own key only. -/
theorem BundleMap.lookup_insert (map : BundleMap κ ν) (key other : κ) (value : ν) :
    AList.lookup other (map.insert key value) =
      if other = key then some value else map.lookup other := by
  by_cases same : other = key
  · subst same
    rw [if_pos rfl, AList.lookup_insert]
  · rw [if_neg same, AList.lookup_insert_ne same]

/-- Insertion of a new key adds one entry. -/
theorem BundleMap.len_insert (map : BundleMap κ ν) (key : κ) (value : ν)
    (absent : map.lookup key = none) :
    BundleMap.len (map.insert key value) = BundleMap.len map + 1 := by
  rw [BundleMap.len, AList.entries_insert_of_notMem (AList.lookup_eq_none.mp absent),
    List.length_cons, BundleMap.len]

end Counting

section Delegated

variable (documents : DelegatedDocuments)

/-- The documents of an authority by kind and id, and those of a kind by id. -/
def DelegatedDocuments.kindsOf (authority : AuthorityId) :
    BundleMap PrincipalKind (BundleMap PrincipalId DelegatedPrincipalKeyDocument) :=
  (documents.lookup authority).getD ∅

/-- The documents of one authority about principals of one kind. -/
def DelegatedDocuments.idsOf (authority : AuthorityId) (kind : PrincipalKind) :
    BundleMap PrincipalId DelegatedPrincipalKeyDocument :=
  ((documents.kindsOf authority).lookup kind).getD ∅

/-- `entry(..).or_default()` twice, then `insert`. -/
def DelegatedDocuments.insertPrincipal (authority : AuthorityId) (kind : PrincipalKind)
    (id : PrincipalId) (document : DelegatedPrincipalKeyDocument) : DelegatedDocuments :=
  documents.insert authority ((documents.kindsOf authority).insert kind
    ((documents.idsOf authority kind).insert id document))

/-- A missing authority or kind holds as much as an empty one. So the nested lookups are one
lookup in a map that may be empty. -/
theorem lookup_principal_eq (authority : AuthorityId) (kind : PrincipalKind) (id : PrincipalId) :
    documents.lookupPrincipal authority kind id = (documents.idsOf authority kind).lookup id := by
  unfold DelegatedDocuments.lookupPrincipal DelegatedDocuments.idsOf DelegatedDocuments.kindsOf
  cases documents.lookup authority with
  | none => rfl
  | some kinds =>
    cases located : kinds.lookup kind with
    | none => simp [located]
    | some ids => simp [located]

/-- An insertion changes the documents of its own authority and kind only. Of these it changes
the one of its principal. -/
theorem kinds_of_insert (authority : AuthorityId) (kind : PrincipalKind) (id : PrincipalId)
    (document : DelegatedPrincipalKeyDocument) (other : AuthorityId) :
    (documents.insertPrincipal authority kind id document).kindsOf other =
      if other = authority then
        (documents.kindsOf authority).insert kind
          ((documents.idsOf authority kind).insert id document)
      else documents.kindsOf other := by
  unfold DelegatedDocuments.insertPrincipal
  rw [DelegatedDocuments.kindsOf, BundleMap.lookup_insert]
  split <;> rfl

/-- The insertion of a document changes the lookup of its own principal only. The maps are nested
three deep, and each level is an insertion under one key. -/
theorem lookup_principal_insert (authority : AuthorityId) (kind : PrincipalKind) (id : PrincipalId)
    (document : DelegatedPrincipalKeyDocument) (otherAuthority : AuthorityId)
    (otherKind : PrincipalKind) (otherId : PrincipalId) :
    (documents.insertPrincipal authority kind id document).lookupPrincipal otherAuthority
        otherKind otherId =
      if otherAuthority = authority ∧ otherKind = kind ∧ otherId = id then some document
      else documents.lookupPrincipal otherAuthority otherKind otherId := by
  rw [lookup_principal_eq, lookup_principal_eq, DelegatedDocuments.idsOf, kinds_of_insert]
  by_cases sameAuthority : otherAuthority = authority
  · subst sameAuthority
    rw [if_pos rfl]
    by_cases sameKind : otherKind = kind
    · subst sameKind
      rw [AList.lookup_insert, Option.getD_some]
      by_cases sameId : otherId = id
      · subst sameId
        rw [AList.lookup_insert, if_pos ⟨rfl, rfl, rfl⟩]
      · rw [AList.lookup_insert_ne sameId, if_neg fun same => sameId same.2.2]
    · rw [AList.lookup_insert_ne sameKind, if_neg fun same => sameKind same.2.1,
        DelegatedDocuments.idsOf]
  · rw [if_neg sameAuthority, if_neg fun same => sameAuthority same.1, DelegatedDocuments.idsOf]

/-- A document of a new principal is one more document. At each level the map of the key is
replaced by one that holds one document more. -/
theorem delegated_document_count_insert (authority : AuthorityId) (kind : PrincipalKind)
    (id : PrincipalId) (document : DelegatedPrincipalKeyDocument)
    (absent : documents.lookupPrincipal authority kind id = none) :
    delegatedDocumentCount (documents.insertPrincipal authority kind id document) =
      delegatedDocumentCount documents + 1 := by
  rw [lookup_principal_eq] at absent
  have ids := BundleMap.len_insert (documents.idsOf authority kind) id document absent
  have kinds := BundleMap.total_insert BundleMap.len (documents.kindsOf authority) kind
    ((documents.idsOf authority kind).insert id document)
  have authorities := BundleMap.total_insert (fun kinds => BundleMap.total BundleMap.len kinds)
    documents authority ((documents.kindsOf authority).insert kind
      ((documents.idsOf authority kind).insert id document))
  -- A missing map weighs as much as the empty one that takes its place.
  have idsBefore : (((documents.kindsOf authority).lookup kind).map BundleMap.len).getD 0 =
      BundleMap.len (documents.idsOf authority kind) := by
    unfold DelegatedDocuments.idsOf
    cases (documents.kindsOf authority).lookup kind <;> rfl
  have kindsBefore :
      ((documents.lookup authority).map fun kinds => BundleMap.total BundleMap.len kinds).getD 0 =
        BundleMap.total BundleMap.len (documents.kindsOf authority) := by
    unfold DelegatedDocuments.kindsOf
    cases documents.lookup authority <;> rfl
  rw [idsBefore, ids] at kinds
  rw [kindsBefore] at authorities
  rw [delegated_document_count_eq, delegated_document_count_eq,
    DelegatedDocuments.insertPrincipal]
  omega

end Delegated

/-- A wrapped entry is inserted as the entry itself. The four types of entries are one type here,
and wrapping is injective. -/
theorem insert_new_in_place_wrap {ν μ : Type} [DecidableEq ν] [DecidableEq μ] (wrap : ν → μ)
    (injective : Function.Injective wrap) (bundle : TrustGrantProofBundle) (existing : Option ν)
    (entry : ν) (name field : String) (count maxItems : Nat) (inserted : TrustGrantProofBundle) :
    insertNewInPlace bundle (existing.map wrap) (wrap entry) name field count maxItems inserted =
      insertNewInPlace bundle existing entry name field count maxItems inserted := by
  cases existing with
  | none => rfl
  | some existing =>
    by_cases same : existing = entry
    · simp [insertNewInPlace, same]
    · have different : wrap existing ≠ wrap entry := fun equal => same (injective equal)
      simp [insertNewInPlace, same, different]

namespace TrustGrantProofBundle

/-- What is checked of an entry before it is looked up. -/
def checkEntry : BundleEntry → Except TrustGrantError Unit
  | .ownershipTransitionChain _ chain =>
    ensureCollectionLimit "ownership_transition.chain" chain.length maxOwnershipChainLength
  | _ => .ok ()

/-- The bundle with one more entry. Each kind of entry goes into the map of its section. -/
def inserted (bundle : TrustGrantProofBundle) : BundleEntry → TrustGrantProofBundle
  | .discoveryDocument document =>
    { bundle with
      discoveryDocuments := bundle.discoveryDocuments.insert document.authorityId document }
  | .delegatedPrincipalDocument document =>
    { bundle with
      delegatedDocuments := bundle.delegatedDocuments.insertPrincipal document.authorityId
        document.principal.kind document.principal.id document }
  | .revocationProof proof =>
    { bundle with
      revocationProofs := bundle.revocationProofs.insert proof.proof.trustgrantId proof }
  | .ownershipTransitionChain trustgrantId chain =>
    { bundle with
      ownershipTransitionChains := bundle.ownershipTransitionChains.insert trustgrantId chain }

/-- The checks of an entry on its own, before the bundle is looked at. -/
theorem check_entry_ok_iff (entry : BundleEntry) : checkEntry entry = .ok () ↔ entry.Fits := by
  cases entry with
  | ownershipTransitionChain trustgrantId chain => exact ensure_collection_limit_ok_iff _ _ _ ()
  | discoveryDocument document => exact ⟨fun _ => trivial, fun _ => rfl⟩
  | delegatedPrincipalDocument document => exact ⟨fun _ => trivial, fun _ => rfl⟩
  | revocationProof proof => exact ⟨fun _ => trivial, fun _ => rfl⟩

/-- The calls that return the changed bundle, each for its kind of entry. -/
def insertEntry (bundle : TrustGrantProofBundle) :
    BundleEntry → Except TrustGrantError TrustGrantProofBundle
  | .discoveryDocument document => bundle.insertDiscoveryDocument document
  | .delegatedPrincipalDocument document => bundle.insertDelegatedPrincipalDocument document
  | .revocationProof proof => bundle.insertRevocationProof proof
  | .ownershipTransitionChain trustgrantId chain =>
    bundle.insertOwnershipTransitionChain trustgrantId chain

/-- In place, an entry is inserted as by the call that returns the changed bundle. -/
theorem insert_in_place_result (bundle : TrustGrantProofBundle) (entry : BundleEntry) :
    bundle.insertInPlace entry = InPlace.ofResult bundle (bundle.insertEntry entry) := by
  cases entry with
  | ownershipTransitionChain trustgrantId chain =>
    refine Eq.trans ?_ (InPlace.or_return_of_result bundle _ _)
    exact congrArg _ (funext fun _ => insert_new_in_place ..)
  | _ => exact insert_new_in_place ..

/-- All four insertions follow one pattern: the entry is checked, the entry under its key is
looked up, and a new one is counted against the limit of its store. -/
theorem insert_in_place_eq (bundle : TrustGrantProofBundle) (entry : BundleEntry) :
    ∃ name field, bundle.insertInPlace entry =
      InPlace.orReturn bundle (checkEntry entry) fun _ =>
        insertNewInPlace bundle (bundle.find entry.key) entry name field
          (bundle.count entry.key.sectionOf) entry.key.sectionOf.limit (bundle.inserted entry) := by
  cases entry with
  | discoveryDocument document =>
    refine ⟨_, _, (insert_new_in_place_wrap BundleEntry.discoveryDocument ?_ bundle _ document
      "discovery_document" "proof_bundle.discovery_documents" _ _ _).symm⟩
    exact fun _ _ equal => BundleEntry.discoveryDocument.inj equal
  | delegatedPrincipalDocument document =>
    refine ⟨_, _, (insert_new_in_place_wrap BundleEntry.delegatedPrincipalDocument ?_ bundle _
      document "delegated_principal_document" "proof_bundle.delegated_principal_documents"
      _ _ _).symm⟩
    exact fun _ _ equal => BundleEntry.delegatedPrincipalDocument.inj equal
  | revocationProof proof =>
    refine ⟨_, _, (insert_new_in_place_wrap BundleEntry.revocationProof ?_ bundle _ proof
      "revocation_proof" "proof_bundle.revocation_proofs" _ _ _).symm⟩
    exact fun _ _ equal => BundleEntry.revocationProof.inj equal
  | ownershipTransitionChain trustgrantId chain =>
    refine ⟨"ownership_transition_chain", "proof_bundle.ownership_transition_chains", ?_⟩
    have wrapped := insert_new_in_place_wrap (BundleEntry.ownershipTransitionChain trustgrantId)
      (fun _ _ equal => (BundleEntry.ownershipTransitionChain.inj equal).2) bundle
      (bundle.ownershipTransitionChains.lookup trustgrantId) chain "ownership_transition_chain"
      "proof_bundle.ownership_transition_chains" bundle.ownershipTransitionChains.len
      maxBundleOwnershipTransitionChains
      (bundle.inserted (.ownershipTransitionChain trustgrantId chain))
    unfold insertInPlace insertOwnershipTransitionChainInPlace
    exact congrArg _ (funext fun _ => wrapped.symm)

/-- One more entry is found under its key. All other lookups stay. An entry and a key of
different kinds concern different maps, and those of one kind concern one map. -/
theorem find_inserted (bundle : TrustGrantProofBundle) (entry : BundleEntry) (key : BundleKey) :
    (bundle.inserted entry).find key = if key = entry.key then some entry else bundle.find key := by
  cases entry with
  | discoveryDocument document =>
    cases key with
    | discovery authority =>
      simp only [find, inserted, BundleEntry.key, BundleKey.discovery.injEq,
        BundleMap.lookup_insert]
      split <;> rfl
    | _ => simp [find, inserted, BundleEntry.key]
  | delegatedPrincipalDocument document =>
    cases key with
    | delegated authority kind id =>
      simp only [find, inserted, BundleEntry.key, BundleKey.delegated.injEq,
        lookup_principal_insert]
      split <;> rfl
    | _ => simp [find, inserted, BundleEntry.key]
  | revocationProof proof =>
    cases key with
    | revocation trustgrantId =>
      simp only [find, inserted, BundleEntry.key, BundleKey.revocation.injEq,
        BundleMap.lookup_insert]
      split <;> rfl
    | _ => simp [find, inserted, BundleEntry.key]
  | ownershipTransitionChain trustgrantId chain =>
    cases key with
    | chain other =>
      simp only [find, inserted, BundleEntry.key, BundleKey.chain.injEq, BundleMap.lookup_insert]
      by_cases same : other = trustgrantId
      · rw [if_pos same, if_pos same, same]
        rfl
      · rw [if_neg same, if_neg same]
    | _ => simp [find, inserted, BundleEntry.key]

/-- One more entry is counted in its store. The entry has to be new, as the maps replace what
they hold under a key. -/
theorem count_inserted (bundle : TrustGrantProofBundle) (entry : BundleEntry)
    (absent : bundle.find entry.key = none) (part : BundleSection) :
    (bundle.inserted entry).count part =
      bundle.count part + if part = entry.key.sectionOf then 1 else 0 := by
  cases entry with
  | discoveryDocument document =>
    cases part with
    | discoveryDocuments => exact BundleMap.len_insert _ _ _ (Option.map_eq_none_iff.mp absent)
    | _ => rfl
  | delegatedPrincipalDocument document =>
    cases part with
    | delegatedDocuments =>
      exact delegated_document_count_insert _ _ _ _ _ (Option.map_eq_none_iff.mp absent)
    | _ => rfl
  | revocationProof proof =>
    cases part with
    | revocationProofs => exact BundleMap.len_insert _ _ _ (Option.map_eq_none_iff.mp absent)
    | _ => rfl
  | ownershipTransitionChain trustgrantId chain =>
    cases part with
    | ownershipTransitionChains =>
      exact BundleMap.len_insert _ _ _ (Option.map_eq_none_iff.mp absent)
    | _ => rfl

/-- An insertion that succeeds under a new key leaves one more entry. So whoever looks under the
key afterwards finds it. -/
theorem inserted_of_succeeded (bundle : TrustGrantProofBundle) (entry : BundleEntry)
    (absent : bundle.find entry.key = none)
    (succeeded : (bundle.insertInPlace entry).2 = .ok ()) :
    (bundle.insertInPlace entry).1 = bundle.inserted entry := by
  obtain ⟨name, field, pattern⟩ := insert_in_place_eq bundle entry
  rw [pattern] at succeeded ⊢
  cases checked : checkEntry entry with
  | error problem =>
    rw [checked, InPlace.or_return_error] at succeeded
    cases succeeded
  | ok done =>
    rw [checked, InPlace.or_return_ok] at succeeded
    exact insert_new_in_place_inserted _ _ _ _ _ _ _ _ absent succeeded

/-- A bundle is a store that never replaces. The laws of such stores are all that the results
about insertions in sequence ask for; they are checked here for each of the ways to insert. -/
theorem store_lawful : store.Lawful where
  nothing key := by cases key <;> rfl
  zero part := by cases part <;> rfl
  succeeds bundle entry := by
    obtain ⟨name, field, pattern⟩ := insert_in_place_eq bundle entry
    show (bundle.insertInPlace entry).2 = .ok () ↔ _
    rw [pattern]
    cases checked : checkEntry entry with
    | error problem =>
      have unfit : ¬entry.Fits := fun fits => by
        rw [(check_entry_ok_iff entry).mpr fits] at checked
        cases checked
      rw [InPlace.or_return_error]
      constructor
      · intro impossible
        cases impossible
      · intro possible
        exact absurd possible.1 unfit
    | ok done =>
      rw [InPlace.or_return_ok, insert_new_in_place_ok_iff]
      exact (and_iff_right ((check_entry_ok_iff entry).mp checked)).symm
  failed bundle entry problem failed := by
    obtain ⟨name, field, pattern⟩ := insert_in_place_eq bundle entry
    change (bundle.insertInPlace entry).2 = .error problem at failed
    show (bundle.insertInPlace entry).1 = bundle
    rw [pattern] at failed ⊢
    cases checked : checkEntry entry with
    | error other => rfl
    | ok done =>
      rw [checked, InPlace.or_return_ok] at failed
      exact insert_new_in_place_failed _ _ _ _ _ _ _ _ problem failed
  again bundle entry present := by
    obtain ⟨name, field, pattern⟩ := insert_in_place_eq bundle entry
    show (bundle.insertInPlace entry).1 = bundle
    rw [pattern]
    cases checked : checkEntry entry with
    | error problem => rfl
    | ok done => exact insert_new_in_place_again _ _ _ _ _ _ _ _ present
  found bundle entry absent succeeded key := by
    rw [show (store.insert bundle entry).1 = bundle.inserted entry from
      inserted_of_succeeded bundle entry absent succeeded]
    exact find_inserted bundle entry key
  counted bundle entry absent succeeded part := by
    rw [show (store.insert bundle entry).1 = bundle.inserted entry from
      inserted_of_succeeded bundle entry absent succeeded]
    exact count_inserted bundle entry absent part

end TrustGrantProofBundle

end TrustGrant
