import TrustGrant.Domain.Authority
import TrustGrant.Domain.Lineage
import TrustGrant.Library.SortedMap
import TrustGrant.Rust.DateTime

/-!
# Ownership transitions

One transition hands a finite set of resources from a predecessor to a successor. Its
parts carry what their constructors check: parties that differ, a lineage whose first
revision stands alone, selectors that list values, a time window that holds the effective
time. The outcome of verifying a chain of transitions is a record of its own.
-/

namespace TrustGrant

open Rust Limits Library

/-- A transition within its series: a first revision supersedes nothing, a later one
supersedes another transition. -/
structure OwnershipTransitionLineage where
  transitionId : TransitionId
  transitionSeriesId : TransitionSeriesId
  revision : GrantRevision
  supersedesTransitionId : Option TransitionId
  firstAlone : revision.get = 1 → supersedesTransitionId = none
  laterSupersedes : 1 < revision.get → supersedesTransitionId ≠ none
  notSelf : supersedesTransitionId ≠ some transitionId

/-- `OwnershipTransitionLineage::new`: the first transition supersedes nothing, a later one
supersedes another one. -/
def OwnershipTransitionLineage.new (transitionId : TransitionId)
    (transitionSeriesId : TransitionSeriesId) (revision : GrantRevision)
    (supersedesTransitionId : Option TransitionId) :
    Except TrustGrantError OwnershipTransitionLineage :=
  if firstAlone : revision.get = 1 → supersedesTransitionId = none then
    if laterSupersedes : 1 < revision.get → supersedesTransitionId ≠ none then
      if notSelf : supersedesTransitionId ≠ some transitionId then
        .ok ⟨transitionId, transitionSeriesId, revision, supersedesTransitionId, firstAlone,
          laterSupersedes, notSelf⟩
      else .error .selfSupersession
    else .error .missingSupersedesForNonFirstOwnershipTransitionRevision
  else .error .invalidSupersedesForFirstRevision

/-- Values under one kind. There is at least one, and no two are equal. -/
structure OwnershipSelector where
  kind : SelectorKind
  values : List String
  present : values ≠ []
  distinct : values.Nodup

namespace OwnershipSelector

/-- Derived equality: kinds are compared as kinds, not by spelling. -/
def sameSelector (left right : OwnershipSelector) : Bool :=
  left.kind == right.kind && left.values == right.values

/-- Normalize the values one by one; each must differ from the ones seen before it. Values are
compared after they are trimmed. -/
def normalizeValuesFrom (seen : List String) :
    List String → Except TrustGrantError (List String)
  | [] => .ok []
  | value :: rest => do
    let normalized ← normalizeNonEmpty "ownership_selector.value" value
    Results.rejectIf (normalized ∈ seen) .duplicateSelector
    let later ← normalizeValuesFrom (normalized :: seen) rest
    return normalized :: later

/-- Accepted values are distinct, are new, and are as many as were given. The induction carries
the list of seen values, against which each new one is compared. -/
theorem normalize_values_distinct (seen values normalized : List String)
    (accepted : normalizeValuesFrom seen values = .ok normalized) :
    normalized.Nodup ∧ (∀ value ∈ normalized, value ∉ seen) ∧
      normalized.length = values.length := by
  induction values generalizing seen normalized with
  | nil =>
    cases accepted
    exact ⟨List.nodup_nil, fun value member => absurd member List.not_mem_nil, rfl⟩
  | cons value rest inductionHypothesis =>
    obtain ⟨first, -, remaining⟩ := (Results.bind_ok_iff _ _ _).mp accepted
    obtain ⟨⟨⟩, fresh, remaining⟩ := (Results.bind_ok_iff _ _ _).mp remaining
    obtain ⟨later, normalizedLater, returned⟩ := (Results.bind_ok_iff _ _ _).mp remaining
    obtain rfl := (Results.pure_ok_iff _ _).mp returned
    rw [Results.reject_if_ok_iff] at fresh
    obtain ⟨distinct, unseen, sameLength⟩ := inductionHypothesis _ _ normalizedLater
    refine ⟨List.nodup_cons.mpr ⟨fun listed => ?_, distinct⟩, ?_, ?_⟩
    · exact unseen first listed List.mem_cons_self
    · intro other member
      rcases List.mem_cons.mp member with rfl | listed
      · exact fresh
      · exact fun earlier => unseen other listed (List.mem_cons_of_mem first earlier)
    · rw [List.length_cons, List.length_cons, sameLength]

/-- `OwnershipSelector::new`: values are checked before the kind. -/
def new (kind : String) (values : List String) : Except TrustGrantError OwnershipSelector :=
  if given : values = [] then .error .invalidOwnershipTransitionScope
  else
    match accepted : normalizeValuesFrom [] values with
    | .error problem => .error problem
    | .ok normalized =>
      have checks := normalize_values_distinct [] values normalized accepted
      have present : normalized ≠ [] := by
        rw [← List.length_pos_iff, checks.2.2, List.length_pos_iff]
        exact given
      do
        let kind ← SelectorKind.new kind
        return ⟨kind, normalized, present, checks.1⟩

end OwnershipSelector

/-- The resources of one type that a transition hands over. -/
structure OwnershipResourceScope where
  selectors : List OwnershipSelector
  present : selectors ≠ []
  distinct : selectors.Pairwise fun earlier later => earlier.sameSelector later = false

/-- `OwnershipResourceScope::new`: something is handed over. -/
def OwnershipResourceScope.new (selectors : List OwnershipSelector) :
    Except TrustGrantError OwnershipResourceScope :=
  if present : selectors ≠ [] then
    if distinct : selectors.Pairwise fun earlier later => earlier.sameSelector later = false then
      .ok ⟨selectors, present, distinct⟩
    else .error .duplicateSelector
  else .error .invalidOwnershipTransitionScope

/-- A time window that is not inverted. A transition is in force within it. -/
structure OwnershipTimeWindow where
  notBefore : DateTime
  notAfter : DateTime
  ordered : notBefore ≤ notAfter

namespace OwnershipTimeWindow

/-- `OwnershipTimeWindow::new`: the ends are in order. -/
def new (notBefore notAfter : DateTime) : Except TrustGrantError OwnershipTimeWindow :=
  if ordered : notBefore ≤ notAfter then .ok ⟨notBefore, notAfter, ordered⟩
  else .error .invalidTimeWindow

/-- Both ends belong to the window. -/
def contains (window : OwnershipTimeWindow) (timestamp : DateTime) : Bool :=
  timestamp ≥ window.notBefore && timestamp ≤ window.notAfter

/-- A window contains both of its ends. -/
theorem contains_iff (window : OwnershipTimeWindow) (timestamp : DateTime) :
    window.contains timestamp = true ↔
      window.notBefore ≤ timestamp ∧ timestamp ≤ window.notAfter := by
  simp [contains]

end OwnershipTimeWindow

/-- Who a transition is about. The two parties differ, while either of them may be the origin. -/
structure OwnershipTransitionParties where
  originAuthority : AuthorityId
  predecessorAuthority : AuthorityId
  successorAuthority : AuthorityId
  different : predecessorAuthority ≠ successorAuthority

/-- `OwnershipTransitionParties::new`: nobody hands over to itself. -/
def OwnershipTransitionParties.new
    (originAuthority predecessorAuthority successorAuthority : AuthorityId) :
    Except TrustGrantError OwnershipTransitionParties :=
  if different : predecessorAuthority ≠ successorAuthority then
    .ok ⟨originAuthority, predecessorAuthority, successorAuthority, different⟩
  else .error .invalidOwnershipTransitionParties

/-- A verified transition as chain verification reads it. The signatures and the keys are gone,
as they were checked before. -/
structure OwnershipTransitionRecord where
  lineage : OwnershipTransitionLineage
  parties : OwnershipTransitionParties
  resourceScope : SortedMap ResourceTypeName OwnershipResourceScope
  timeWindow : Option OwnershipTimeWindow
  effectiveAt : DateTime
  listed : resourceScope.entries ≠ []
  within : ∀ window ∈ timeWindow, window.contains effectiveAt = true

namespace OwnershipTransitionRecord

/-- `OwnershipTransitionRecord::new`: a transition hands something over and takes effect within
its window. -/
def new (lineage : OwnershipTransitionLineage) (parties : OwnershipTransitionParties)
    (resourceScope : SortedMap ResourceTypeName OwnershipResourceScope)
    (timeWindow : Option OwnershipTimeWindow) (effectiveAt : DateTime) :
    Except TrustGrantError OwnershipTransitionRecord :=
  if listed : resourceScope.entries ≠ [] then
    if within : ∀ window ∈ timeWindow, window.contains effectiveAt = true then
      .ok ⟨lineage, parties, resourceScope, timeWindow, effectiveAt, listed, within⟩
    else .error .invalidOwnershipTransitionEffectiveAt
  else .error .invalidOwnershipTransitionScope

/-- The origin of what is handed over. -/
def originAuthority (record : OwnershipTransitionRecord) : AuthorityId :=
  record.parties.originAuthority

/-- The authority that hands over. -/
def predecessorAuthority (record : OwnershipTransitionRecord) : AuthorityId :=
  record.parties.predecessorAuthority

/-- The authority that takes over. -/
def successorAuthority (record : OwnershipTransitionRecord) : AuthorityId :=
  record.parties.successorAuthority

end OwnershipTransitionRecord

/-- How ownership was proven. -/
inductive OwnershipProofKind where
  | staticOwner
  | transitionChain
deriving DecidableEq

/-- The outcome of verifying the ownership of a document. The tip is there exactly when a chain
was followed. -/
structure OwnershipVerificationRecord where
  originAuthority : AuthorityId
  activeOwningAuthority : AuthorityId
  checkedAt : DateTime
  proofKind : OwnershipProofKind
  transitionChainTip : Option TransitionId
deriving DecidableEq

end TrustGrant
