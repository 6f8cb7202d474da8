import TrustGrant.Ownership.Coverage

/-!
# The points of an ownership history

A grant is issued at some point of the history of its resources. The chain that leads to this
point is a part of every longer one, so acceptance is decided step by step: a chain is accepted
for the successor of its last transition exactly when what is before it is accepted for the
predecessor and the transition may stand at the end. At each point of an accepted history one
authority is accepted as the owner and no other.

The step is the growth of a linear history at its end. From it, one authority is accepted at
each point, and two acceptances at one point are the same.
-/

namespace TrustGrant

open Rust Limits Library

/-- The same document, naming another active owner. -/
def ValidatedTrustGrantDocument.ownedBy (document : ValidatedTrustGrantDocument)
    (owner : AuthorityId) : ValidatedTrustGrantDocument :=
  { document with
    ownershipAuthorityState :=
      { document.ownershipAuthorityState with activeOwningAuthority := owner } }

/-- The authority that a history leaves the resources with. Without transitions it is the
origin. -/
def ownerAfter (document : ValidatedTrustGrantDocument)
    (transitions : List OwnershipTransitionRecord) : AuthorityId :=
  (transitions.getLast?.map OwnershipTransitionRecord.successorAuthority).getD
    document.ownershipAuthorityState.originAuthority

/-- The transitions are accepted as the history of a document that names this owner. Everything
else of the document is fixed. -/
def AcceptedFor (document : ValidatedTrustGrantDocument) (checkedAt : DateTime)
    (transitions : List OwnershipTransitionRecord) (owner : AuthorityId) : Prop :=
  ∃ record, verifyDocumentOwnership (document.ownedBy owner) transitions checkedAt = .ok record

variable {document : ValidatedTrustGrantDocument} {checkedAt : DateTime}

/-- Whether a history is linear does not depend on the owner that the document names. This owner
is compared with the end of the chain only. -/
theorem linear_history_owned_by_iff (owner : AuthorityId)
    (transitions : List OwnershipTransitionRecord) :
    LinearHistory (document.ownedBy owner) checkedAt transitions ↔
      LinearHistory document checkedAt transitions :=
  ⟨fun history => ⟨history.origin, history.starts, history.follows, history.series,
      history.distinct, history.inForce, history.covered⟩,
    fun history => ⟨history.origin, history.starts, history.follows, history.series,
      history.distinct, history.inForce, history.covered⟩⟩

/-- Transitions are accepted for the owner that they lead to, when they are a linear history
within the limit. -/
theorem accepted_for_iff (transitions : List OwnershipTransitionRecord) (owner : AuthorityId) :
    AcceptedFor document checkedAt transitions owner ↔
      owner = ownerAfter document transitions ∧
        transitions.length ≤ maxOwnershipChainLength ∧
        LinearHistory document checkedAt transitions := by
  simp only [AcceptedFor, verify_document_ownership_ok_iff, linear_history_owned_by_iff, ownerAfter]
  cases reached : transitions.getLast? with
  | none =>
    rw [List.getLast?_eq_none_iff] at reached
    subst reached
    constructor
    · rintro ⟨record, ⟨-, static, -⟩ | ⟨last, absent, -⟩⟩
      · exact ⟨static.symm, Nat.zero_le _, linear_history_nil⟩
      · cases absent
    · rintro ⟨static, -⟩
      exact ⟨_, .inl ⟨rfl, static.symm, rfl⟩⟩
  | some last =>
    constructor
    · rintro ⟨record, ⟨rfl, -⟩ | ⟨other, found, short, history, leads, -⟩⟩
      · cases reached
      · cases found
        exact ⟨leads.symm, short, history⟩
    · rintro ⟨leads, short, history⟩
      exact ⟨_, .inr ⟨last, rfl, short, history, leads.symm, rfl⟩⟩

/-- The beginning of a linear history is linear. The induction takes the later transitions away
from the end. -/
theorem linear_history_beginning (before after : List OwnershipTransitionRecord)
    (history : LinearHistory document checkedAt (before ++ after)) :
    LinearHistory document checkedAt before := by
  induction after using List.reverseRecOn with
  | nil => rwa [List.append_nil] at history
  | append_singleton after last inductionHypothesis =>
    rw [← List.append_assoc] at history
    exact inductionHypothesis ((linear_history_snoc _ last).mp history).1

/-- A transition at the end of a history hands on what its predecessor was left with. For the
first one this is the origin. -/
theorem predecessor_of_extends (before : List OwnershipTransitionRecord)
    (transition : OwnershipTransitionRecord)
    (extended : Extends document checkedAt before transition) :
    transition.predecessorAuthority = ownerAfter document before := by
  unfold ownerAfter
  cases reached : before.getLast? with
  | none => exact (extended.starts (List.getLast?_eq_none_iff.mp reached)).2
  | some last => exact (extended.follows last reached).handedOn

/-- Histories compose: a transition hands the resources on to an owner exactly when what is
before it is accepted for its predecessor, it may stand at the end, there is room for it, and
the owner is its successor.

Proof: acceptance is a linear history within the limit on chains, and a linear history grows
by exactly the transitions that may stand at its end. Such a transition is from the owner
before it. -/
theorem handed_on_iff (document : ValidatedTrustGrantDocument) (checkedAt : DateTime)
    (before : List OwnershipTransitionRecord) (transition : OwnershipTransitionRecord)
    (owner : AuthorityId) :
    AcceptedFor document checkedAt (before ++ [transition]) owner ↔
      AcceptedFor document checkedAt before transition.predecessorAuthority ∧
        Extends document checkedAt before transition ∧
        before.length < maxOwnershipChainLength ∧ owner = transition.successorAuthority := by
  have leads : ownerAfter document (before ++ [transition]) = transition.successorAuthority := by
    simp [ownerAfter]
  rw [accepted_for_iff, accepted_for_iff, linear_history_snoc, leads, List.length_append,
    List.length_singleton]
  constructor
  · rintro ⟨owned, room, history, extended⟩
    exact ⟨⟨predecessor_of_extends before transition extended, by omega, history⟩, extended, room,
      owned⟩
  · rintro ⟨⟨-, -, history⟩, extended, room, owned⟩
    exact ⟨owned, room, history, extended⟩

/-- At each point of an accepted history exactly one authority is accepted as the owner: the
one that the transitions before the point lead to.

Proof: the beginning of a linear history is linear and within the limit, so the owner it leads to
is accepted; that no other is, is what acceptance says of the owner. -/
theorem one_owner_at_each_point (document : ValidatedTrustGrantDocument) (checkedAt : DateTime)
    (before after : List OwnershipTransitionRecord) (record : OwnershipVerificationRecord)
    (accepted : verifyDocumentOwnership document (before ++ after) checkedAt = .ok record)
    (owner : AuthorityId) :
    AcceptedFor document checkedAt before owner ↔ owner = ownerAfter document before := by
  have whole : AcceptedFor document checkedAt (before ++ after)
      document.ownershipAuthorityState.activeOwningAuthority := ⟨record, accepted⟩
  obtain ⟨-, short, history⟩ := (accepted_for_iff _ _).mp whole
  rw [List.length_append] at short
  rw [accepted_for_iff]
  exact and_iff_left ⟨by omega, linear_history_beginning before after history⟩

/-- Before the small transfer the resources are with their origin. -/
theorem small_history_begins :
    AcceptedFor smallTransferredDocument smallInstant []
      smallTransferredDocument.ownershipAuthorityState.originAuthority :=
  (one_owner_at_each_point smallTransferredDocument smallInstant [] [smallTransfer]
    smallOwnership (Results.value_of_eq _ _) _).mpr rfl

end TrustGrant
