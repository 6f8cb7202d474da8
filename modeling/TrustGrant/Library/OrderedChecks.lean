import TrustGrant.Library.Results
import Mathlib.Data.List.Basic

/-!
# Checks made one after the other

A decision procedure tries its requirements in a fixed order and refuses with the
reason of the first one that fails. The relation here states that of a list of
requirements and a verdict, without saying how the procedure computes it. It is
functional, and it accepts exactly when every requirement holds.
-/

namespace Library.OrderedChecks

universe u
variable {ρ : Type u}

/-- A requirement and the reason to refuse when it fails. -/
structure Check (ρ : Type u) where
  requirement : Prop
  reason : ρ

/-- The verdict of trying the checks in order: no reason when all hold, otherwise
the reason of the first that fails. -/
inductive Verdict : List (Check ρ) → Option ρ → Prop where
  | accepted : Verdict [] none
  | refused (check : Check ρ) (rest : List (Check ρ)) (failed : ¬ check.requirement) :
      Verdict (check :: rest) (some check.reason)
  | passed (check : Check ρ) (rest : List (Check ρ)) (verdict : Option ρ)
      (holds : check.requirement) (later : Verdict rest verdict) :
      Verdict (check :: rest) verdict

/-- Every requirement of the checks holds. -/
def Hold (checks : List (Check ρ)) : Prop := ∀ check ∈ checks, check.requirement

/-- No requirement is always met. -/
@[simp] theorem hold_nil : Hold ([] : List (Check ρ)) := by
  intro check member
  cases member

/-- The first requirement and the rest. -/
@[simp] theorem hold_cons (check : Check ρ) (rest : List (Check ρ)) :
    Hold (check :: rest) ↔ check.requirement ∧ Hold rest := List.forall_mem_cons

/-- Lists of requirements one after the other. -/
@[simp] theorem hold_append (earlier later : List (Check ρ)) :
    Hold (earlier ++ later) ↔ Hold earlier ∧ Hold later := List.forall_mem_append

/-- The checks are accepted exactly when every requirement holds. By induction on the list: the
first check is passed or decides. -/
theorem accepted_iff (checks : List (Check ρ)) : Verdict checks none ↔ Hold checks := by
  induction checks with
  | nil => exact iff_of_true Verdict.accepted hold_nil
  | cons check rest inductionHypothesis =>
    rw [hold_cons, ← inductionHypothesis]
    constructor
    · intro verdict
      cases verdict with
      | passed _ _ _ holds later => exact ⟨holds, later⟩
    · rintro ⟨holds, later⟩
      exact Verdict.passed check rest none holds later

/-- The order and the requirements leave one verdict only. The induction is on the first
derivation; a check cannot be passed and failed. -/
theorem verdict_unique (checks : List (Check ρ)) (first second : Option ρ)
    (left : Verdict checks first) (right : Verdict checks second) : first = second := by
  induction left with
  | accepted => cases right; rfl
  | refused check rest failed =>
    cases right with
    | refused => rfl
    | passed _ _ _ holds _ => exact absurd holds failed
  | passed check rest verdict holds later inductionHypothesis =>
    cases right with
    | refused _ _ failed => exact absurd holds failed
    | passed _ _ _ _ laterToo => exact inductionHypothesis laterToo

/-- Two checks require the same and give the same reason. -/
structure SameCheck (first second : Check ρ) : Prop where
  requirement : first.requirement ↔ second.requirement
  reason : first.reason = second.reason

/-- Checks that are the same one by one come to the same verdict. Only the requirement and the
reason of a check matter. -/
theorem verdict_congr (checks others : List (Check ρ))
    (same : List.Forall₂ SameCheck checks others) (verdict : Option ρ)
    (decided : Verdict checks verdict) : Verdict others verdict := by
  induction same generalizing verdict with
  | nil => exact decided
  | cons sameCheck sameRest inductionHypothesis =>
    cases decided with
    | refused _ _ failed =>
      rw [sameCheck.reason]
      exact .refused _ _ fun required => failed (sameCheck.requirement.mpr required)
    | passed _ _ _ holds later =>
      exact .passed _ _ _ (sameCheck.requirement.mp holds) (inductionHypothesis _ later)

/-- A refusal among the earlier checks is the verdict of the whole list. The induction is on the
earlier checks, up to the one that fails. -/
theorem verdict_append_refused (earlier later : List (Check ρ)) (reason : ρ)
    (refused : Verdict earlier (some reason)) : Verdict (earlier ++ later) (some reason) := by
  induction earlier with
  | nil => cases refused
  | cons check rest inductionHypothesis =>
    cases refused with
    | refused _ _ failed => exact Verdict.refused check (rest ++ later) failed
    | passed _ _ _ holds remaining =>
      exact Verdict.passed check (rest ++ later) _ holds (inductionHypothesis remaining)

/-- Once the earlier checks are accepted, the later ones decide. So groups of checks can be put
in sequence. -/
theorem verdict_append_accepted (earlier later : List (Check ρ)) (verdict : Option ρ)
    (allHold : Verdict earlier none) (decided : Verdict later verdict) :
    Verdict (earlier ++ later) verdict := by
  induction earlier with
  | nil => exact decided
  | cons check rest inductionHypothesis =>
    cases allHold with
    | passed _ _ _ holds remaining =>
      exact Verdict.passed check (rest ++ later) _ holds (inductionHypothesis remaining)

/-- The reason a step refuses with, if it does. -/
def refusal (step : Except ρ Unit) : Option ρ :=
  match step with
  | .ok () => none
  | .error reason => some reason

/-- A step does what trying the checks in order does. -/
def Decides (checks : List (Check ρ)) (step : Except ρ Unit) : Prop :=
  Verdict checks (refusal step)

/-- One rejection decides one check. The condition of the program and the requirement are
opposites, which the caller shows. -/
theorem decides_reject_if (requirement condition : Prop) [Decidable condition] (reason : ρ)
    (opposite : requirement ↔ ¬ condition) :
    Decides [⟨requirement, reason⟩] (Results.rejectIf condition reason) := by
  unfold Decides Results.rejectIf
  by_cases holds : condition
  · rw [if_pos holds]
    exact Verdict.refused ⟨requirement, reason⟩ [] fun required => opposite.mp required holds
  · rw [if_neg holds]
    exact Verdict.passed ⟨requirement, reason⟩ [] none (opposite.mpr holds) Verdict.accepted

/-- Steps in sequence decide their checks in sequence. -/
theorem decides_then (earlier later : List (Check ρ)) (first second : Except ρ Unit)
    (firstDecides : Decides earlier first) (secondDecides : Decides later second) :
    Decides (earlier ++ later) (first >>= fun _ => second) := by
  cases first with
  | error reason => exact verdict_append_refused earlier later reason firstDecides
  | ok => exact verdict_append_accepted earlier later _ firstDecides secondDecides

/-- A step that looks something up decides that it is there, and then the checks on what
it found. The later checks hold vacuously when nothing was found. -/
theorem decides_lookup {α : Type} (found : Option α) (reason : ρ) (later : List (Check ρ))
    (next : α → Except ρ Unit) (nextDecides : ∀ value, found = some value →
      Decides later (next value)) :
    Decides (⟨found ≠ none, reason⟩ :: later) (Results.okOr found reason >>= next) := by
  cases found with
  | none => exact Verdict.refused ⟨none ≠ none, reason⟩ later fun present => present rfl
  | some value =>
    exact Verdict.passed ⟨some value ≠ none, reason⟩ later _ (Option.some_ne_none value)
      (nextDecides value rfl)

end Library.OrderedChecks
