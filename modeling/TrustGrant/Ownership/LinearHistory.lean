import TrustGrant.Ownership.Chain
import Mathlib.Data.List.Chain
import Mathlib.Data.List.Nodup

/-!
# Linear histories of ownership

A list of transitions is a linear history when each follows the one before it: it starts
where that one ended, supersedes it, has a larger revision and takes effect no earlier.
The loop of the chain verifier accepts exactly the linear histories that cover the
document. The loop's state is read off the transitions it has passed, so one step is
compared with one more transition at the end of the history.

The rule for folds reduces the loop to one step, and the step is compared with the condition
under which a history may grow. The equivalence for whole chains and the record that is
returned follow without another look at the loop.
-/

namespace TrustGrant

open Rust Limits Library

/-- The transition scope holds every value of a selector of the document, which lists
nothing but values. -/
structure SelectorCovered (selector : ValidatedSelector) (scope : OwnershipResourceScope) :
    Prop where
  listsOnly : selector.all = false ∧ selector.expressions = [] ∧ selector.values ≠ []
  held : ∀ value ∈ selector.values, ∃ handed ∈ scope.selectors,
    handed.kind.sameKind selector.kind = true ∧ value ∈ handed.values

/-- The transition scope covers what the document says about one resource type. The type lists
its resources, and each selector is covered. -/
structure TypeCovered (resourceType : ValidatedResourceType) (scope : OwnershipResourceScope) :
    Prop where
  listsOnly : resourceType.all = false ∧ resourceType.deny = []
  selectors : ∀ selector ∈ resourceType.allow, SelectorCovered selector scope

/-- The scope of a transition covers the scope of the document. -/
def ScopeCovered (document : ValidatedTrustGrantDocument)
    (transition : OwnershipTransitionRecord) : Prop :=
  ∀ entry ∈ document.resourceScope.entries, ∃ scope,
    transition.resourceScope.get entry.1 = some scope ∧ TypeCovered entry.2 scope

/-- One transition directly follows another. It starts where the other ended, supersedes it, has
a larger revision and takes effect no earlier. -/
structure Follows (earlier later : OwnershipTransitionRecord) : Prop where
  handedOn : later.predecessorAuthority = earlier.successorAuthority
  supersedes : later.lineage.supersedesTransitionId = some earlier.lineage.transitionId
  revision : earlier.lineage.revision.get < later.lineage.revision.get
  effective : earlier.effectiveAt ≤ later.effectiveAt

/-- A transition is in force at a time: it has taken effect, and its window, when it has
one, contains the time. -/
structure InForce (transition : OwnershipTransitionRecord) (checkedAt : DateTime) : Prop where
  effective : transition.effectiveAt ≤ checkedAt
  window : ∀ window ∈ transition.timeWindow,
    window.notBefore ≤ checkedAt ∧ checkedAt ≤ window.notAfter

/-- The transitions form one linear history from the origin of the document, in one series
and without repetition, and each is in force and covers the document. -/
structure LinearHistory (document : ValidatedTrustGrantDocument) (checkedAt : DateTime)
    (transitions : List OwnershipTransitionRecord) : Prop where
  origin : ∀ transition ∈ transitions,
    transition.originAuthority = document.ownershipAuthorityState.originAuthority
  starts : ∀ first ∈ transitions.head?, first.lineage.revision.get = 1 ∧
    first.predecessorAuthority = document.ownershipAuthorityState.originAuthority
  follows : transitions.IsChain Follows
  series : ∀ first ∈ transitions, ∀ second ∈ transitions,
    first.lineage.transitionSeriesId = second.lineage.transitionSeriesId
  distinct : (transitions.map fun transition => transition.lineage.transitionId).Nodup
  inForce : ∀ transition ∈ transitions, InForce transition checkedAt
  covered : ∀ transition ∈ transitions, ScopeCovered document transition

/-- A transition may stand at the end of a history. The fields are the conditions that one turn
of the loop checks, stated about the whole history before it. -/
structure Extends (document : ValidatedTrustGrantDocument) (checkedAt : DateTime)
    (before : List OwnershipTransitionRecord) (transition : OwnershipTransitionRecord) :
    Prop where
  origin : transition.originAuthority = document.ownershipAuthorityState.originAuthority
  fresh : transition.lineage.transitionId ∉
    before.map fun earlier => earlier.lineage.transitionId
  series : ∀ earlier ∈ before,
    transition.lineage.transitionSeriesId = earlier.lineage.transitionSeriesId
  starts : before = [] → transition.lineage.revision.get = 1 ∧
    transition.predecessorAuthority = document.ownershipAuthorityState.originAuthority
  follows : ∀ last ∈ before.getLast?, Follows last transition
  inForce : InForce transition checkedAt
  covered : ScopeCovered document transition

variable {document : ValidatedTrustGrantDocument} {checkedAt : DateTime}

/-- A history grows by exactly the transitions that may stand at its end. The conditions on the
whole chain are split at the last position: those inside the old part, and those that link the
new end to it. -/
theorem linear_history_snoc (before : List OwnershipTransitionRecord)
    (transition : OwnershipTransitionRecord) :
    LinearHistory document checkedAt (before ++ [transition]) ↔
      LinearHistory document checkedAt before ∧
        Extends document checkedAt before transition := by
  have last : transition ∈ before ++ [transition] := by simp
  have earlier : ∀ other ∈ before, other ∈ before ++ [transition] := by
    intro other member
    simp [member]
  constructor
  · intro history
    obtain ⟨followsBefore, -, followsLast⟩ := List.isChain_append.mp history.follows
    have distinct := history.distinct
    rw [List.map_append, List.nodup_append] at distinct
    refine ⟨⟨fun other member => history.origin other (earlier other member), ?_, followsBefore,
      fun first member second memberToo =>
        history.series first (earlier first member) second (earlier second memberToo),
      distinct.1, fun other member => history.inForce other (earlier other member),
      fun other member => history.covered other (earlier other member)⟩,
      ⟨history.origin transition last, ?_,
        fun other member => history.series transition last other (earlier other member), ?_,
        fun other isLast => followsLast other isLast transition rfl,
        history.inForce transition last, history.covered transition last⟩⟩
    · intro first isFirst
      apply history.starts
      rw [List.head?_append, Option.mem_def.mp isFirst]
      rfl
    · exact fun listed => distinct.2.2 _ listed _ List.mem_cons_self rfl
    · rintro rfl
      exact history.starts transition rfl
  · rintro ⟨history, extended⟩
    have split : ∀ other ∈ before ++ [transition], other ∈ before ∨ other = transition := by
      intro other member
      simpa using member
    refine ⟨?_, ?_, ?_, ?_, ?_, ?_, ?_⟩
    · intro other member
      rcases split other member with inside | rfl
      · exact history.origin other inside
      · exact extended.origin
    · intro first isFirst
      cases before with
      | nil =>
        obtain rfl : transition = first := Option.some.inj isFirst
        exact extended.starts rfl
      | cons head rest => exact history.starts first isFirst
    · refine List.isChain_append.mpr ⟨history.follows, List.isChain_singleton _, ?_⟩
      intro lastBefore isLast next isNext
      obtain rfl : transition = next := Option.some.inj isNext
      exact extended.follows lastBefore isLast
    · intro first member second memberToo
      rcases split first member with inside | rfl <;>
        rcases split second memberToo with insideToo | rfl
      · exact history.series first inside second insideToo
      · exact (extended.series first inside).symm
      · exact extended.series second insideToo
      · rfl
    · rw [List.map_append, List.nodup_append]
      refine ⟨history.distinct, List.nodup_singleton _, ?_⟩
      intro listed member added isAdded same
      rw [List.map_singleton, List.mem_singleton] at isAdded
      exact extended.fresh (isAdded ▸ same ▸ member)
    · intro other member
      rcases split other member with inside | rfl
      · exact history.inForce other inside
      · exact extended.inForce
    · intro other member
      rcases split other member with inside | rfl
      · exact history.covered other inside
      · exact extended.covered

/-- No transitions are a linear history. -/
theorem linear_history_nil : LinearHistory document checkedAt [] where
  origin := by simp
  starts := by simp
  follows := List.isChain_nil
  series := by simp
  distinct := List.nodup_nil
  inForce := by simp
  covered := by simp

/-- What the walk remembers after some transitions. It is a function of the history, so the
loop's state need not be spoken of in results. -/
def ChainState.after (originAuthority : AuthorityId)
    (transitions : List OwnershipTransitionRecord) : ChainState where
  currentOwner := (transitions.getLast?.map OwnershipTransitionRecord.successorAuthority).getD
    originAuthority
  seenTransitionIds := (transitions.map fun transition => transition.lineage.transitionId).reverse
  currentSeriesId := transitions.head?.map fun first => first.lineage.transitionSeriesId
  currentRevision := transitions.getLast?.map fun last => last.lineage.revision.get
  previousEffectiveAt := transitions.getLast?.map OwnershipTransitionRecord.effectiveAt
  tip := transitions.getLast?.map fun last => last.lineage.transitionId

/-- A selector passes exactly when it is covered. The check gathers the values of all selectors
of the kind and looks for each value of the document in them. -/
theorem ensure_selector_covered_ok_iff (selector : ValidatedSelector)
    (scope : OwnershipResourceScope) (done : Unit) :
    ensureSelectorCovered selector scope.selectors = .ok done ↔
      SelectorCovered selector scope := by
  simp only [ensureSelectorCovered, Results.bind_ok_iff, Results.reject_if_ok_iff, exists_const,
    not_or, Bool.not_eq_true, Bool.not_eq_false, ne_eq, not_not, List.all_eq_true,
    List.contains_iff_mem, List.mem_flatMap, List.mem_filter]
  constructor
  · rintro ⟨listsOnly, held⟩
    refine ⟨listsOnly, fun value member => ?_⟩
    obtain ⟨handed, ⟨inScope, same⟩, listed⟩ := held value member
    exact ⟨handed, inScope, same, listed⟩
  · rintro ⟨listsOnly, held⟩
    refine ⟨listsOnly, fun value member => ?_⟩
    obtain ⟨handed, inScope, same, listed⟩ := held value member
    exact ⟨handed, ⟨inScope, same⟩, listed⟩

/-- A transition passes the scope check exactly when it covers the document. The loops over types
and selectors are inverted by the rule for loops without a state. -/
theorem ensure_scope_covers_ok_iff (transition : OwnershipTransitionRecord) (done : Unit) :
    ensureTransitionScopeCoversDocument document.resourceScope transition.resourceScope =
      .ok done ↔ ScopeCovered document transition := by
  have typeCovered : ∀ resourceType scope,
      ensureResourceTypeScopeCovered resourceType scope = .ok () ↔
        TypeCovered resourceType scope := by
    intro resourceType scope
    simp only [ensureResourceTypeScopeCovered, Results.bind_ok_iff, Results.reject_if_ok_iff,
      exists_const, Results.for_each_ok_iff, ensure_selector_covered_ok_iff, not_or,
      Bool.not_eq_true, ne_eq, not_not]
    constructor
    · rintro ⟨listsOnly, selectors⟩
      exact ⟨listsOnly, selectors⟩
    · rintro ⟨listsOnly, selectors⟩
      exact ⟨listsOnly, selectors⟩
  simp only [ensureTransitionScopeCoversDocument, Results.for_each_ok_iff, Results.bind_ok_iff,
    Results.ok_or_ok_iff, typeCovered, ScopeCovered]

/-- The series check passes exactly on the series of the history. The loop keeps the series of
the first transition, with which every later one agrees. -/
theorem check_series_ok_iff (before : List OwnershipTransitionRecord)
    (transition : OwnershipTransitionRecord) (done : Unit)
    (series : ∀ first ∈ before, ∀ second ∈ before,
      first.lineage.transitionSeriesId = second.lineage.transitionSeriesId) :
    checkSeries (before.head?.map fun first => first.lineage.transitionSeriesId) transition =
        .ok done ↔
      ∀ earlier ∈ before,
        transition.lineage.transitionSeriesId = earlier.lineage.transitionSeriesId := by
  cases before with
  | nil => simp [checkSeries]
  | cons first rest =>
    simp only [List.head?_cons, Option.map_some, checkSeries, Results.reject_if_ok_iff, ne_eq,
      not_not]
    constructor
    · intro same earlier member
      exact same.trans (series first List.mem_cons_self earlier member)
    · intro same
      exact same first List.mem_cons_self

/-- The checks of revision, predecessor and order pass together exactly when the transition
starts a history or follows its last transition. -/
theorem check_position_ok_iff (originAuthority : AuthorityId)
    (before : List OwnershipTransitionRecord) (transition : OwnershipTransitionRecord) :
    (checkRevision (ChainState.after originAuthority before).currentRevision
        (ChainState.after originAuthority before).tip transition = .ok () ∧
      transition.predecessorAuthority = (ChainState.after originAuthority before).currentOwner ∧
      checkEffectiveOrder (ChainState.after originAuthority before).previousEffectiveAt
        transition.effectiveAt = .ok ()) ↔
      (before = [] → transition.lineage.revision.get = 1 ∧
        transition.predecessorAuthority = originAuthority) ∧
      ∀ last ∈ before.getLast?, Follows last transition := by
  cases reached : before.getLast? with
  | none =>
    rw [List.getLast?_eq_none_iff] at reached
    subst reached
    simp [ChainState.after, checkRevision, checkEffectiveOrder, Results.reject_if_ok_iff]
  | some last =>
    have present : before ≠ [] := by
      rintro rfl
      cases reached
    simp only [ChainState.after, reached, Option.map_some, Option.getD_some, checkRevision,
      checkEffectiveOrder, Option.any_some, Results.bind_ok_iff, Results.reject_if_ok_iff,
      exists_const, UInt64.not_le, ne_eq, not_not, decide_eq_true_eq, not_lt, present,
      false_implies, true_and, Option.mem_def, Option.some.injEq, forall_eq']
    constructor
    · rintro ⟨⟨revision, supersedes⟩, handedOn, effective⟩
      exact ⟨handedOn, supersedes, revision, effective⟩
    · rintro ⟨handedOn, supersedes, revision, effective⟩
      exact ⟨⟨revision, supersedes⟩, handedOn, effective⟩

/-- The window check passes exactly when the window, if any, contains the time. -/
theorem check_window_ok_iff (timeWindow : Option OwnershipTimeWindow) (done : Unit) :
    checkWindow timeWindow checkedAt = .ok done ↔
      ∀ window ∈ timeWindow, window.notBefore ≤ checkedAt ∧ checkedAt ≤ window.notAfter := by
  cases timeWindow with
  | none => simp [checkWindow, Results.reject_if_ok_iff]
  | some window =>
    simp [checkWindow, Results.reject_if_ok_iff, ← OwnershipTimeWindow.contains_iff]

/-- One turn of the loop passes exactly when the transition may stand at the end of the
history so far, and then the state is that of the longer history. -/
theorem follow_transition_ok_iff (before : List OwnershipTransitionRecord)
    (transition : OwnershipTransitionRecord) (after : ChainState)
    (history : LinearHistory document checkedAt before) :
    followTransition document checkedAt
        (.after document.ownershipAuthorityState.originAuthority before) transition =
        .ok after ↔
      Extends document checkedAt before transition ∧
        after = .after document.ownershipAuthorityState.originAuthority
          (before ++ [transition]) := by
  have moved : ChainState.after document.ownershipAuthorityState.originAuthority
      (before ++ [transition]) = {
        currentOwner := transition.successorAuthority
        seenTransitionIds := transition.lineage.transitionId ::
          (ChainState.after document.ownershipAuthorityState.originAuthority
            before).seenTransitionIds
        currentSeriesId := some
          ((ChainState.after document.ownershipAuthorityState.originAuthority
            before).currentSeriesId.getD transition.lineage.transitionSeriesId)
        currentRevision := some transition.lineage.revision.get
        previousEffectiveAt := some transition.effectiveAt
        tip := some transition.lineage.transitionId } := by
    simp only [ChainState.after, List.getLast?_concat, Option.map_some, Option.getD_some,
      List.map_append, List.map_singleton, List.reverse_append, List.reverse_singleton,
      List.singleton_append]
    cases before <;> rfl
  have position := check_position_ok_iff document.ownershipAuthorityState.originAuthority before
    transition
  have series := check_series_ok_iff before transition () history.series
  simp only [followTransition, Results.bind_ok_iff, Results.reject_if_ok_iff, exists_const,
    ne_eq, not_not, not_lt, check_window_ok_iff, ensure_scope_covers_ok_iff,
    Results.pure_ok_iff, ← moved]
  constructor
  · rintro ⟨origin, unseen, ⟨⟩, sameSeries, ⟨⟩, revision, handedOn, effective, window, ⟨⟩, ordered,
      covered, rfl⟩
    obtain ⟨starts, follows⟩ := position.mp ⟨revision, handedOn, ordered⟩
    refine ⟨⟨origin, ?_, series.mp sameSeries, starts, follows, ⟨effective, window⟩, covered⟩, rfl⟩
    simpa [ChainState.after] using unseen
  · rintro ⟨extended, rfl⟩
    obtain ⟨revision, handedOn, ordered⟩ := position.mpr ⟨extended.starts, extended.follows⟩
    refine ⟨extended.origin, ?_, (), series.mpr extended.series, (), revision, handedOn,
      extended.inForce.effective, extended.inForce.window, (), ordered, extended.covered, rfl⟩
    simpa [ChainState.after] using extended.fresh

/-- The loop runs through exactly the linear histories. The rule for folds reduces it to one
step, and one step is the growth of a history at its end. -/
theorem follow_transitions_ok_iff (transitions : List OwnershipTransitionRecord)
    (reached : ChainState) :
    transitions.foldlM (followTransition document checkedAt)
        (.start document.ownershipAuthorityState.originAuthority) = .ok reached ↔
      LinearHistory document checkedAt transitions ∧
        reached = .after document.ownershipAuthorityState.originAuthority transitions := by
  refine Results.fold_ok_iff (followTransition document checkedAt)
    (LinearHistory document checkedAt)
    (ChainState.after document.ownershipAuthorityState.originAuthority) linear_history_nil
    (fun before item longer => ((linear_history_snoc before item).mp longer).1) ?_
    transitions reached
  intro before transition after history
  rw [follow_transition_ok_iff before transition after history, linear_history_snoc]
  exact and_congr_left fun _ => ⟨fun extended => ⟨history, extended⟩, And.right⟩

/-- Ownership is accepted exactly for a static owner without transitions, or for a linear
history within the length limit that ends at the active owner; the record names the origin,
that owner and the last transition. -/
theorem verify_document_ownership_ok_iff (transitions : List OwnershipTransitionRecord)
    (record : OwnershipVerificationRecord) :
    verifyDocumentOwnership document transitions checkedAt = .ok record ↔
      (transitions = [] ∧ document.ownershipAuthorityState.originAuthority =
          document.ownershipAuthorityState.activeOwningAuthority ∧
        record = ⟨document.ownershipAuthorityState.originAuthority,
          document.ownershipAuthorityState.activeOwningAuthority, checkedAt, .staticOwner,
          none⟩) ∨
      ∃ last ∈ transitions.getLast?, transitions.length ≤ maxOwnershipChainLength ∧
        LinearHistory document checkedAt transitions ∧
        last.successorAuthority = document.ownershipAuthorityState.activeOwningAuthority ∧
        record = ⟨document.ownershipAuthorityState.originAuthority,
          document.ownershipAuthorityState.activeOwningAuthority, checkedAt, .transitionChain,
          some last.lineage.transitionId⟩ := by
  simp only [verifyDocumentOwnership, Results.bind_ok_iff, ensure_collection_limit_ok_iff,
    exists_const]
  by_cases nothing : transitions = []
  · subst nothing
    simp only [if_true, Results.bind_ok_iff, Results.reject_if_ok_iff, exists_const, ne_eq,
      not_not, Results.pure_ok_iff, true_and, List.getLast?_nil, Option.mem_def, reduceCtorEq,
      false_and, exists_false, or_false, List.length_nil, Nat.zero_le]
    exact and_congr_right fun _ => eq_comm
  · obtain ⟨last, isLast⟩ := Option.ne_none_iff_exists'.mp
      (mt List.getLast?_eq_none_iff.mp nothing)
    simp only [nothing, if_false, Results.bind_ok_iff, follow_transitions_ok_iff,
      Results.reject_if_ok_iff, exists_const, ne_eq, not_not, Results.pure_ok_iff, false_and,
      false_or, isLast, Option.mem_def, Option.some.injEq, exists_eq_left']
    constructor
    · rintro ⟨short, reached, ⟨history, rfl⟩, owner, rfl⟩
      simp only [ChainState.after, isLast, Option.map_some, Option.getD_some] at owner ⊢
      exact ⟨short, history, owner, by rw [owner]⟩
    · rintro ⟨short, history, owner, rfl⟩
      refine ⟨short, _, ⟨history, rfl⟩, ?_⟩
      simp only [ChainState.after, isLast, Option.map_some, Option.getD_some]
      exact ⟨owner, by rw [owner]⟩

/-- Acceptance of ownership without reference to the walk: a static owner without
transitions, or a linear history that ends at the active owner. -/
def OwnershipEstablished (document : ValidatedTrustGrantDocument) (checkedAt : DateTime)
    (transitions : List OwnershipTransitionRecord) : Prop :=
  (transitions = [] ∧ document.ownershipAuthorityState.originAuthority =
    document.ownershipAuthorityState.activeOwningAuthority) ∨
  (transitions ≠ [] ∧ transitions.length ≤ maxOwnershipChainLength ∧
    LinearHistory document checkedAt transitions ∧
    ∀ last ∈ transitions.getLast?,
      last.successorAuthority = document.ownershipAuthorityState.activeOwningAuthority)

/-- Ownership is accepted exactly when it is established by the chain, and the record then names
the origin, the active owner, the kind of proof and the last transition. Without a chain the
owner is the origin; with one the check of the chain is inverted, and its last transition fills
the record. -/
theorem ownership_accepted_iff (document : ValidatedTrustGrantDocument)
    (transitions : List OwnershipTransitionRecord) (checkedAt : DateTime) :
    ((∃ record, verifyDocumentOwnership document transitions checkedAt = .ok record) ↔
      OwnershipEstablished document checkedAt transitions) ∧
    ∀ record, verifyDocumentOwnership document transitions checkedAt = .ok record →
      record = {
        originAuthority := document.ownershipAuthorityState.originAuthority
        activeOwningAuthority := document.ownershipAuthorityState.activeOwningAuthority
        checkedAt := checkedAt
        proofKind := if transitions.isEmpty then .staticOwner else .transitionChain
        transitionChainTip := transitions.getLast?.map fun last => last.lineage.transitionId } := by
  simp only [verify_document_ownership_ok_iff]
  cases reached : transitions.getLast? with
  | none =>
    rw [List.getLast?_eq_none_iff] at reached
    subst reached
    simp [OwnershipEstablished]
  | some last =>
    have present : transitions ≠ [] := by
      rintro rfl
      cases reached
    have nonempty : transitions.isEmpty = false := by simpa using present
    simp [OwnershipEstablished, present, reached, nonempty]

end TrustGrant
