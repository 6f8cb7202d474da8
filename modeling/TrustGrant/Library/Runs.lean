import Mathlib.Data.List.Induction
import Mathlib.Data.Prod.Basic

/-!
# Recorded runs of a deterministic machine

A machine reads one input at a time, moves to its next state and answers with an
output. A run feeds a list of inputs from a start state and keeps the record of
every input beside its output. The record grows at its end, so a fact about the
whole history is proved by one step lemma and one induction, both stated here.

The steps of one run may be restricted to an admissible kind. The restriction is a predicate
on the input and the state in which it is read, so it may ask of each input only what
matters where the run makes it.
-/

namespace Library.Runs

universe u v w
variable {σ : Type u} {ι : Type v} {ο : Type w}

/-- Feed one input: move to the next state and append the answered pair. -/
def advance (step : σ → ι → σ × ο) (reached : σ × List (ι × ο)) (input : ι) :
    σ × List (ι × ο) :=
  ((step reached.1 input).1, reached.2 ++ [(input, (step reached.1 input).2)])

/-- The state and the record after feeding every input in order. -/
def run (step : σ → ι → σ × ο) (start : σ) (inputs : List ι) : σ × List (ι × ο) :=
  inputs.foldl (advance step) (start, [])

/-- A run of no inputs answers nothing. -/
@[simp] theorem run_nil (step : σ → ι → σ × ο) (start : σ) :
    run step start [] = (start, []) := rfl

/-- One more input advances the run reached by the earlier ones. -/
theorem run_snoc (step : σ → ι → σ × ο) (start : σ) (inputs : List ι) (input : ι) :
    run step start (inputs ++ [input]) = advance step (run step start inputs) input := by
  simp [run, List.foldl_append]

/-- The state after one more input. -/
theorem run_snoc_state (step : σ → ι → σ × ο) (start : σ) (inputs : List ι) (input : ι) :
    (run step start (inputs ++ [input])).1 = (step (run step start inputs).1 input).1 := by
  rw [run_snoc]
  rfl

/-- The record after one more input. -/
theorem run_snoc_record (step : σ → ι → σ × ο) (start : σ) (inputs : List ι) (input : ι) :
    (run step start (inputs ++ [input])).2 =
      (run step start inputs).2 ++ [(input, (step (run step start inputs).1 input).2)] := by
  rw [run_snoc]
  rfl

/-- Feeding more inputs continues the run: the record grows by that of the continuation. The
induction is on the later inputs, from their end. -/
theorem run_append (step : σ → ι → σ × ο) (start : σ) (earlier later : List ι) :
    run step start (earlier ++ later) =
      ((run step (run step start earlier).1 later).1,
        (run step start earlier).2 ++ (run step (run step start earlier).1 later).2) := by
  induction later using List.reverseRecOn with
  | nil => simp
  | append_singleton later input inductionHypothesis =>
    rw [← List.append_assoc, run_snoc, run_snoc, inductionHypothesis]
    simp [advance]

/-- The invariant rule: what holds of the empty record and survives every admissible step holds of
every run whose steps are admissible. Whether an input is admissible may depend on the state in
which it is read; the induction adds the last input. -/
theorem run_invariant_along (step : σ → ι → σ × ο) (start : σ) (Admissible : σ → ι → Prop)
    (Invariant : List (ι × ο) → σ → Prop) (initially : Invariant [] start)
    (preserved : ∀ record state input, Admissible state input → Invariant record state →
      Invariant (record ++ [(input, (step state input).2)]) (step state input).1)
    (inputs : List ι)
    (admitted : ∀ before input after, inputs = before ++ input :: after →
      Admissible (run step start before).1 input) :
    Invariant (run step start inputs).2 (run step start inputs).1 := by
  induction inputs using List.reverseRecOn with
  | nil => exact initially
  | append_singleton inputs input inductionHypothesis =>
    rw [run_snoc_record, run_snoc_state]
    apply preserved
    · exact admitted inputs input [] rfl
    · refine inductionHypothesis fun before earlier after split => ?_
      exact admitted before earlier (after ++ [input]) (by simp [split])

/-- The same for inputs that are admissible in every state. It is the form for conditions on the
inputs alone. -/
theorem run_invariant (step : σ → ι → σ × ο) (start : σ) (Admissible : ι → Prop)
    (Invariant : List (ι × ο) → σ → Prop) (initially : Invariant [] start)
    (preserved : ∀ record state input, Admissible input → Invariant record state →
      Invariant (record ++ [(input, (step state input).2)]) (step state input).1)
    (inputs : List ι) (admitted : ∀ input ∈ inputs, Admissible input) :
    Invariant (run step start inputs).2 (run step start inputs).1 := by
  refine run_invariant_along step start (fun _ => Admissible) Invariant initially preserved
    inputs ?_
  rintro before input after rfl
  exact admitted input (by simp)

/-- A recorded pair was answered at some point of the run: the inputs before it
lead to the state in which its input was read. -/
theorem recorded_at (step : σ → ι → σ × ο) (start : σ) (inputs : List ι) (pair : ι × ο)
    (recorded : pair ∈ (run step start inputs).2) :
    ∃ before after, inputs = before ++ pair.1 :: after ∧
      pair.2 = (step (run step start before).1 pair.1).2 := by
  induction inputs using List.reverseRecOn with
  | nil => simp at recorded
  | append_singleton inputs input inductionHypothesis =>
    rw [run_snoc_record, List.mem_append, List.mem_singleton] at recorded
    rcases recorded with earlier | rfl
    · obtain ⟨before, after, split, answered⟩ := inductionHypothesis earlier
      exact ⟨before, after ++ [input], by simp [split], answered⟩
    · exact ⟨inputs, [], rfl, rfl⟩

/-- Every input of a run is recorded with the answer it was given where it was read. -/
theorem answered_of_split (step : σ → ι → σ × ο) (start : σ) (before after : List ι)
    (input : ι) :
    (input, (step (run step start before).1 input).2) ∈
      (run step start (before ++ input :: after)).2 := by
  have split : before ++ input :: after = (before ++ [input]) ++ after := by simp
  rw [split, run_append, run_snoc_record]
  simp

end Library.Runs
