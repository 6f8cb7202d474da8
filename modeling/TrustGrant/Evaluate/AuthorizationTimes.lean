import TrustGrant.Evaluate.Monotonicity
import TrustGrant.Verify.AcceptanceTimes

/-!
# When a request is authorized

A request is authorized at a time when its grant is verified and the request evaluated at
that time. Both are decided by periods, so the times of authorization form an interval:
what was authorized and lapsed is not authorized again by the same document and bundle.

Acceptance is decided by one interval of times and evaluation by another one, so what is
authorized at two times is authorized between them by both. The two parts are proved apart
and meet in the result on texts.
-/

namespace TrustGrant

open Rust Library Library.OrderedChecks

/-- The same request, evaluated at another time. -/
def EvaluationRequest.evaluatedAtTime (request : EvaluationRequest) (time : DateTime) :
    EvaluationRequest :=
  { request with evaluatedAt := time }

/-- A time in the period of a grant: its revocation record is fresh and its time window
contains the time. -/
structure InPeriod (grant : VerifiedTrustGrant) (time : DateTime) : Prop where
  fresh : ∀ record, grant.metadata.revocation = .checked record → time ≤ record.freshUntil
  window : ∀ window ∈ grant.document.globalTimeWindow,
    window.notBefore ≤ time ∧ time ≤ window.notAfter

/-- Every requirement of a request but those about its time. They are the same at all times, as
the request is. -/
def timelessRequirements (grant : VerifiedTrustGrant) (request : EvaluationRequest) :
    List (Check EvaluationDenyReason) :=
  selectorChecks request ++ (revocationChecks grant request).tail ++
    targetChecks grant request ++ [⟨granted grant request ≠ none, .resourceTypeNotGranted⟩] ++
    capabilityChecks grant request ++ resourceChecks grant request ++
    operationChecks grant request ++ audienceChecks grant request ++ mintChecks grant request

/-- A request is allowed at a time exactly when the time is in the period of the grant and
the requirements that are not about time hold. -/
theorem allowed_at_iff (grant : VerifiedTrustGrant) (request : EvaluationRequest)
    (time : DateTime) :
    (evaluate grant (request.evaluatedAtTime time)).decision.isAllowed = true ↔
      InPeriod grant time ∧ Hold (timelessRequirements grant request) := by
  rw [allowed_iff_requirements]
  simp only [requirements, timelessRequirements, hold_append]
  have revocation : Hold (revocationChecks grant (request.evaluatedAtTime time)) ↔
      (∀ record, grant.metadata.revocation = .checked record → time ≤ record.freshUntil) ∧
        Hold (revocationChecks grant request).tail := hold_cons _ _
  have times : Hold (timeChecks grant (request.evaluatedAtTime time)) ↔
      ∀ window ∈ grant.document.globalTimeWindow,
        window.notBefore ≤ time ∧ time ≤ window.notAfter := by
    simp only [timeChecks, hold_cons, hold_nil, and_true, ← forall₂_and]
    exact Iff.rfl
  rw [revocation, times]
  constructor
  · rintro ⟨⟨⟨⟨⟨⟨⟨⟨⟨selectors, fresh, status⟩, window⟩, target⟩, typed⟩, capability⟩, resource⟩,
      operation⟩, audience⟩, mint⟩
    exact ⟨⟨fresh, window⟩, ⟨⟨⟨⟨⟨⟨⟨selectors, status⟩, target⟩, typed⟩, capability⟩, resource⟩,
      operation⟩, audience⟩, mint⟩
  · rintro ⟨⟨fresh, window⟩, ⟨⟨⟨⟨⟨⟨⟨selectors, status⟩, target⟩, typed⟩, capability⟩, resource⟩,
      operation⟩, audience⟩, mint⟩
    exact ⟨⟨⟨⟨⟨⟨⟨⟨⟨selectors, fresh, status⟩, window⟩, target⟩, typed⟩, capability⟩, resource⟩,
      operation⟩, audience⟩, mint⟩

/-- A request that is allowed at some time is allowed at exactly the times in the period of
the grant.

Proof: of all requirements only the window and the freshness of the record speak of the time, so
allowance splits into the period and a part without time. -/
theorem allowed_exactly_in_period (grant : VerifiedTrustGrant) (request : EvaluationRequest)
    (allowed : (evaluate grant request).decision.isAllowed = true) (time : DateTime) :
    (evaluate grant (request.evaluatedAtTime time)).decision.isAllowed = true ↔
      InPeriod grant time := by
  have asked : request.evaluatedAtTime request.evaluatedAt = request := rfl
  rw [← asked, allowed_at_iff] at allowed
  rw [allowed_at_iff]
  exact and_iff_left allowed.2

/-- The instant of the small request, some seconds later. -/
def smallInstantAfter (seconds : Nat) : DateTime :=
  (smallInstant.checkedAddSeconds seconds).getD smallInstant

/-- A grant to all within the minute of the small request. -/
def grantForOneMinute : VerifiedTrustGrant :=
  { grantToAll with document := { grantToAll.document with
      globalTimeWindow := some ⟨smallInstant, smallInstantAfter 60, by decide +kernel⟩ } }

/-- What is allowed in that minute is denied after it. The period ends with the minute,
inclusively, so one second decides. -/
theorem small_recognition_in_period :
    (evaluate grantForOneMinute (smallRecognition.evaluatedAtTime
      (smallInstantAfter 60))).decision.isAllowed = true ∧
    (evaluate grantForOneMinute (smallRecognition.evaluatedAtTime
      (smallInstantAfter 61))).decision.isAllowed ≠ true := by
  have decides := allowed_exactly_in_period grantForOneMinute smallRecognition (by decide +kernel)
  refine ⟨(decides _).mpr ⟨fun record checked => ?_, fun window listed => ?_⟩, fun allowed => ?_⟩
  · cases checked
  · cases listed
    exact ⟨by decide +kernel, by decide +kernel⟩
  · exact absurd (((decides _).mp allowed).window _ rfl).2 (by decide +kernel)

/-- The period of a grant is an interval. -/
theorem in_period_between (grant : VerifiedTrustGrant) {early late time : DateTime}
    (after : early ≤ time) (before : time ≤ late) (earlyInPeriod : InPeriod grant early)
    (lateInPeriod : InPeriod grant late) : InPeriod grant time where
  fresh record checked := before.trans (lateInPeriod.fresh record checked)
  window window present := ⟨(earlyInPeriod.window window present).1.trans after,
    before.trans (lateInPeriod.window window present).2⟩

/-- When a grant was established does not matter to evaluation. -/
theorem evaluate_established_at (artifacts : VerificationArtifacts) (time : DateTime)
    (request : EvaluationRequest) :
    evaluate (artifacts.establishedAt time).verifiedGrant request =
      evaluate artifacts.verifiedGrant request := rfl

/-- The times at which a request is authorized: its grant is verified at the time, and the
verified grant allows the request at the time. -/
def authorizationTimes (mapping : Text.CaseMapping)
    (fromStr : String → Option RawTrustGrantDocument) (json : String)
    (verifier : SignatureVerifier) (bundle : TrustGrantProofBundle)
    (posture : VerificationPosture) (request : EvaluationRequest) : Set DateTime :=
  fun time => ∃ artifacts,
    verifyJsonStrWithBundle mapping fromStr json verifier bundle ⟨time, posture⟩ =
        .ok artifacts ∧
      (evaluate artifacts.verifiedGrant (request.evaluatedAtTime time)).decision.isAllowed = true

/-- Authorization does not come back: the times at which a request is authorized by one
document and bundle form an interval.

Proof: acceptance is an interval, and the grants that are accepted in it differ in their time
stamps only, which the evaluation does not read. Allowance is then a period of one grant. -/
theorem authorized_over_interval (mapping : Text.CaseMapping)
    (fromStr : String → Option RawTrustGrantDocument) (json : String)
    (verifier : SignatureVerifier) (bundle : TrustGrantProofBundle)
    (posture : VerificationPosture) (request : EvaluationRequest) :
    (authorizationTimes mapping fromStr json verifier bundle posture request).OrdConnected := by
  refine ⟨?_⟩
  rintro early ⟨first, acceptedEarly, allowedEarly⟩ late ⟨second, acceptedLate, allowedLate⟩ time
    ⟨after, before⟩
  obtain ⟨rfl, acceptedBetween⟩ := text_accepted_between mapping fromStr json verifier bundle
    posture after before first second acceptedEarly acceptedLate
  rw [evaluate_established_at, allowed_at_iff] at allowedLate
  rw [allowed_at_iff] at allowedEarly
  refine ⟨_, acceptedBetween, ?_⟩
  rw [evaluate_established_at, allowed_at_iff]
  exact ⟨in_period_between _ after before allowedEarly.1 allowedLate.1, allowedEarly.2⟩

end TrustGrant
