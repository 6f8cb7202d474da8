import TrustGrant.Library.Runs
import Mathlib.Data.List.Perm.Basic

/-!
# Parties that share a machine

Several parties feed inputs to one machine. A party sees states through a relation of
agreement. It is isolated when its own inputs, read in states that agree, are answered
alike and lead to states that agree, and when the inputs of the others lead nowhere that
it could tell from where it was. Both conditions are about a single step. From them the
answers that a party is given in any run are those it is given alone, so they do not
depend on how the inputs of the parties are interleaved.
-/

namespace Library.Isolation

open Library.Runs

universe u v w x
variable {σ : Type u} {ι : Type v} {ο : Type w} {κ : Type x}

/-- In states that agree the input is answered alike, and the states it leads to agree. -/
def Answered (step : σ → ι → σ × ο) (Agree : σ → σ → Prop) (input : ι) : Prop :=
  ∀ first second, Agree first second →
    (step first input).2 = (step second input).2 ∧
      Agree (step first input).1 (step second input).1

/-- The input leads to a state that agrees with the one it was read in. -/
def Silent (step : σ → ι → σ × ο) (Agree : σ → σ → Prop) (input : ι) : Prop :=
  ∀ state, Agree (step state input).1 state

/-- A party is answered in a run of all inputs as in the run of its own inputs alone, and
the states reached agree. The induction is from the end: an input of the party is answered
alike by both runs, and an input of another is read by the first run only. -/
theorem run_isolated (step : σ → ι → σ × ο) (Agree : σ → σ → Prop)
    (agreement : Equivalence Agree) (own : ι → Bool) (first second : σ)
    (agree : Agree first second) (inputs : List ι)
    (answered : ∀ input ∈ inputs, own input = true → Answered step Agree input)
    (silent : ∀ input ∈ inputs, own input = false → Silent step Agree input) :
    (run step first inputs).2.filter (fun pair => own pair.1) =
        (run step second (inputs.filter own)).2 ∧
      Agree (run step first inputs).1 (run step second (inputs.filter own)).1 := by
  induction inputs using List.reverseRecOn with
  | nil => exact ⟨rfl, agree⟩
  | append_singleton inputs input inductionHypothesis =>
    obtain ⟨sameRecord, agreeing⟩ := inductionHypothesis
      (fun earlier member => answered earlier (by simp [member]))
      (fun earlier member => silent earlier (by simp [member]))
    rw [run_snoc_record, run_snoc_state, List.filter_append, List.filter_append, sameRecord]
    by_cases mine : own input = true
    · obtain ⟨sameAnswer, agreeingAfter⟩ :=
        answered input (by simp) mine _ _ agreeing
      have kept : [input].filter own = [input] := by simp [mine]
      rw [kept, run_snoc_record, run_snoc_state]
      exact ⟨by simp [mine, sameAnswer], agreeingAfter⟩
    · have theirs : own input = false := by simpa using mine
      have dropped : [input].filter own = [] := by simp [theirs]
      rw [dropped, List.append_nil]
      refine ⟨by simp [theirs], ?_⟩
      exact agreement.trans (silent input (by simp) theirs _) agreeing

section Parties

variable [DecidableEq κ]

end Parties

end Library.Isolation
