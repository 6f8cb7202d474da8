import Mathlib.Data.List.Forall2
import Mathlib.Data.List.Induction

/-!
# What a successful validation establishes

Validators are written in the `Except` monad. These rules read a success of a
sequence of checks backwards: each step succeeded, and a list was validated exactly
when each of its elements was.
-/

namespace Library.Results

universe u v w
variable {ε : Type u} {α β : Type v}

/-- A sequence succeeds exactly when its first step yields a value on which the
rest succeeds. -/
theorem bind_ok_iff (first : Except ε α) (next : α → Except ε β) (result : β) :
    first >>= next = .ok result ↔ ∃ value, first = .ok value ∧ next value = .ok result := by
  cases first with
  | error problem => simp [bind, Except.bind]
  | ok value => simp [bind, Except.bind]

/-- A sequence fails exactly when one of its steps does. -/
theorem bind_error_iff (first : Except ε α) (next : α → Except ε β) (problem : ε) :
    first >>= next = .error problem ↔
      first = .error problem ∨ ∃ value, first = .ok value ∧ next value = .error problem := by
  cases first with
  | error other => simp [bind, Except.bind]
  | ok value => simp [bind, Except.bind]

/-- Returning a value succeeds with that value only. -/
theorem pure_ok_iff (value result : α) :
    (pure value : Except ε α) = .ok result ↔ value = result := by
  simp [pure, Except.pure]

/-- Fail with the problem when the condition holds. -/
def rejectIf (condition : Prop) [Decidable condition] (problem : ε) : Except ε Unit :=
  if condition then .error problem else .ok ()

/-- Fail when something was found. -/
def rejectFound (found : Option α) (problem : α → ε) : Except ε Unit :=
  match found with
  | some value => .error (problem value)
  | none => .ok ()

/-- `Option::ok_or`: a missing value is the given problem. -/
def okOr (found : Option α) (problem : ε) : Except ε α :=
  match found with
  | some value => .ok value
  | none => .error problem

/-- A missing value fails with its problem only. -/
theorem ok_or_error (found : Option α) (problem other : ε)
    (failed : okOr found problem = .error other) : other = problem := by
  cases found with
  | none => exact (Except.error.inj failed).symm
  | some value => cases failed

/-- The value of a success. -/
def valueOf : (result : Except ε α) → result.isOk = true → α
  | .ok value, _ => value

/-- A success is the success of its value. -/
theorem value_of_eq (result : Except ε α) (succeeded : result.isOk = true) :
    result = .ok (valueOf result succeeded) := by
  cases result with
  | ok value => rfl
  | error problem => cases succeeded

/-- A rejection passes exactly when its condition fails. -/
theorem reject_if_ok_iff (condition : Prop) [Decidable condition] (problem : ε) (done : Unit) :
    rejectIf condition problem = .ok done ↔ ¬ condition := by
  by_cases holds : condition <;> simp [rejectIf, holds]

/-- A search passes exactly when it finds nothing. -/
theorem reject_found_ok_iff (found : Option α) (problem : α → ε) (done : Unit) :
    rejectFound found problem = .ok done ↔ found = none := by
  cases found <;> simp [rejectFound]

/-- A required value is there exactly when it was found. -/
theorem ok_or_ok_iff (found : Option α) (problem : ε) (result : α) :
    okOr found problem = .ok result ↔ found = some result := by
  cases found <;> simp [okOr]

/-- A check of every element passes exactly when each of them passes. The induction is on the
list, and a failure ends the loop. -/
theorem for_each_ok_iff {α : Type u} {ε : Type v} (inputs : List α)
    (check : α → Except ε PUnit) (done : PUnit) :
    inputs.forM check = .ok done ↔ ∀ input ∈ inputs, check input = .ok ⟨⟩ := by
  induction inputs with
  | nil => simp [pure, Except.pure]
  | cons input rest inductionHypothesis =>
    rw [List.forM, bind_ok_iff, List.forall_mem_cons]
    simp only [inductionHypothesis]
    exact ⟨fun ⟨⟨⟩, first, later⟩ => ⟨first, later⟩, fun ⟨first, later⟩ => ⟨⟨⟩, first, later⟩⟩

/-- The rule for a checked loop whose state is determined by the items it has read: it runs
through exactly the accepted lists and ends in the state of the whole list. -/
theorem fold_ok_iff {σ : Type v} (step : σ → α → Except ε σ) (Accepted : List α → Prop)
    (stateOf : List α → σ) (initially : Accepted [])
    (shorter : ∀ before item, Accepted (before ++ [item]) → Accepted before)
    (stepped : ∀ before item after, Accepted before →
      (step (stateOf before) item = .ok after ↔
        Accepted (before ++ [item]) ∧ after = stateOf (before ++ [item])))
    (inputs : List α) (result : σ) :
    inputs.foldlM step (stateOf []) = .ok result ↔
      Accepted inputs ∧ result = stateOf inputs := by
  induction inputs using List.reverseRecOn generalizing result with
  | nil =>
    rw [List.foldlM_nil, pure_ok_iff]
    exact ⟨fun same => ⟨initially, same.symm⟩, fun ⟨_, same⟩ => same.symm⟩
  | append_singleton inputs item inductionHypothesis =>
    rw [List.foldlM_append, bind_ok_iff]
    simp only [List.foldlM_cons, List.foldlM_nil, bind_pure, inductionHypothesis]
    constructor
    · rintro ⟨_, ⟨accepted, rfl⟩, ran⟩
      exact (stepped inputs item result accepted).mp ran
    · intro ended
      have accepted := shorter inputs item ended.1
      exact ⟨_, ⟨accepted, rfl⟩, (stepped inputs item result accepted).mpr ended⟩

/-- A list is validated exactly when every element is, in order. This turns a loop over fallible
steps into a pairing of its inputs with its outputs. -/
theorem map_list_ok_iff (check : α → Except ε β) (inputs : List α) (outputs : List β) :
    inputs.mapM check = .ok outputs ↔
      List.Forall₂ (fun input output => check input = .ok output) inputs outputs := by
  induction inputs generalizing outputs with
  | nil =>
    rw [List.mapM_nil, pure_ok_iff, List.forall₂_nil_left_iff]
    exact eq_comm
  | cons input rest inductionHypothesis =>
    rw [List.mapM_cons, bind_ok_iff, List.forall₂_cons_left_iff]
    constructor
    · rintro ⟨output, checked, remaining⟩
      obtain ⟨outputs, validated, returned⟩ := (bind_ok_iff _ _ _).mp remaining
      exact ⟨output, outputs, checked, (inductionHypothesis outputs).mp validated,
        ((pure_ok_iff _ _).mp returned).symm⟩
    · rintro ⟨output, outputs, checked, validated, rfl⟩
      refine ⟨output, checked, ?_⟩
      rw [bind_ok_iff]
      exact ⟨outputs, (inductionHypothesis outputs).mpr validated, rfl⟩

/-- The rule for a loop that validates elements one by one and rejects a result whose key
clashes with one seen before: it succeeds exactly when every element is valid and no two
results clash. -/
theorem fresh_loop_ok_iff {ρ : Type u} {κ : Type w} (keyOf : α → κ) (clashes : κ → κ → Prop)
    (valid : ρ → α → Prop) (loop : List κ → List ρ → Except ε (List α))
    (stopped : ∀ seen outputs, loop seen [] = .ok outputs ↔ outputs = [])
    (stepped : ∀ seen input rest outputs, loop seen (input :: rest) = .ok outputs ↔
      ∃ output later, valid input output ∧ (∀ earlier ∈ seen, ¬ clashes (keyOf output) earlier) ∧
        loop (keyOf output :: seen) rest = .ok later ∧ outputs = output :: later)
    (seen : List κ) (inputs : List ρ) (outputs : List α) :
    loop seen inputs = .ok outputs ↔
      List.Forall₂ valid inputs outputs ∧
      outputs.Pairwise (fun earlier later => ¬ clashes (keyOf later) (keyOf earlier)) ∧
      ∀ output ∈ outputs, ∀ earlier ∈ seen, ¬ clashes (keyOf output) earlier := by
  induction inputs generalizing seen outputs with
  | nil =>
    rw [stopped, List.forall₂_nil_left_iff]
    constructor
    · rintro rfl
      exact ⟨rfl, List.Pairwise.nil, by simp⟩
    · exact fun ⟨nothing, _, _⟩ => nothing
  | cons input rest inductionHypothesis =>
    rw [stepped, List.forall₂_cons_left_iff]
    simp only [inductionHypothesis]
    constructor
    · rintro ⟨output, later, isValid, fresh, ⟨validLater, distinct, freshLater⟩, rfl⟩
      refine ⟨⟨output, later, isValid, validLater, rfl⟩, List.pairwise_cons.mpr ⟨?_, distinct⟩, ?_⟩
      · exact fun other member => freshLater other member _ List.mem_cons_self
      · refine List.forall_mem_cons.mpr ⟨fresh, fun other member earlier before => ?_⟩
        exact freshLater other member earlier (List.mem_cons_of_mem _ before)
    · rintro ⟨⟨output, later, isValid, validLater, rfl⟩, distinct, fresh⟩
      obtain ⟨different, distinctLater⟩ := List.pairwise_cons.mp distinct
      obtain ⟨freshFirst, freshLater⟩ := List.forall_mem_cons.mp fresh
      refine ⟨output, later, isValid, freshFirst, ⟨validLater, distinctLater, ?_⟩, rfl⟩
      intro other member
      exact List.forall_mem_cons.mpr ⟨different other member, freshLater other member⟩

/-- Every element of the second of two paired lists is paired with one of the first. So what was
made of the inputs can be followed back to them. -/
theorem paired_input {α : Type u} {β : Type v} {related : α → β → Prop} {inputs : List α}
    {outputs : List β} (paired : List.Forall₂ related inputs outputs) (output : β)
    (member : output ∈ outputs) : ∃ input ∈ inputs, related input output := by
  induction paired with
  | nil => cases member
  | cons first _ inductionHypothesis =>
    rcases List.mem_cons.mp member with rfl | later
    · exact ⟨_, List.mem_cons_self, first⟩
    · obtain ⟨input, inside, isPair⟩ := inductionHypothesis later
      exact ⟨input, List.mem_cons_of_mem _ inside, isPair⟩

/-- Every element of the first of two paired lists is paired with one of the second. -/
theorem paired_output {α : Type u} {β : Type v} {related : α → β → Prop} {inputs : List α}
    {outputs : List β} (paired : List.Forall₂ related inputs outputs) (input : α)
    (member : input ∈ inputs) : ∃ output ∈ outputs, related input output :=
  paired_input paired.flip input member

/-- What holds between any two elements of one list holds between those they are paired
with, when pairing carries it over. -/
theorem paired_pairwise {α : Type u} {β : Type v} {related : α → β → Prop} {inputs : List α}
    {outputs : List β} {before : α → α → Prop} {after : β → β → Prop}
    (paired : List.Forall₂ related inputs outputs)
    (carries : ∀ first output second other, related first output → related second other →
      after output other → before first second)
    (pairwise : outputs.Pairwise after) : inputs.Pairwise before := by
  induction paired with
  | nil => exact List.Pairwise.nil
  | cons isPair later inductionHypothesis =>
    obtain ⟨first, rest⟩ := List.pairwise_cons.mp pairwise
    refine List.pairwise_cons.mpr ⟨fun input member => ?_, inductionHypothesis rest⟩
    obtain ⟨output, inside, otherPair⟩ := paired_output later input member
    exact carries _ _ _ _ isPair otherPair (first output inside)

/-- Mapping each validated element afterwards changes nothing about the validation. The
conversion may be moved behind the loop. -/
theorem map_list_then_ok_iff {γ : Type v} (check : α → Except ε β) (convert : β → γ)
    (inputs : List α) (outputs : List γ) :
    (inputs.mapM fun input => do return convert (← check input)) = .ok outputs ↔
      ∃ values, inputs.mapM check = .ok values ∧ values.map convert = outputs := by
  induction inputs generalizing outputs with
  | nil => simp [List.mapM_nil, pure_ok_iff]
  | cons input rest inductionHypothesis =>
    simp only [List.mapM_cons, bind_ok_iff, inductionHypothesis, pure_ok_iff]
    constructor
    · rintro ⟨output, ⟨value, checked, rfl⟩, later, ⟨values, validated, rfl⟩, rfl⟩
      exact ⟨value :: values, ⟨value, checked, values, validated, rfl⟩, rfl⟩
    · rintro ⟨values, ⟨value, checked, later, validated, rfl⟩, rfl⟩
      exact ⟨convert value, ⟨value, checked, rfl⟩, later.map convert, ⟨later, validated, rfl⟩, rfl⟩

/-- Values that are each read back from what was written are read back together. -/
theorem map_list_inverse {γ : Type v} (write : β → γ) (read : γ → Except ε β) (values : List β)
    (restored : ∀ value ∈ values, read (write value) = .ok value) :
    (values.map write).mapM read = .ok values := by
  rw [map_list_ok_iff, List.forall₂_map_left_iff, List.forall₂_same]
  exact restored

/-- An optional value is read back when its value is. An absent value is written and read as
absent. -/
theorem map_option_inverse {γ : Type v} (write : β → γ) (read : γ → Except ε β)
    (value : Option β) (restored : ∀ inner ∈ value, read (write inner) = .ok inner) :
    (value.map write).mapM read = .ok value := by
  cases value with
  | none => rfl
  | some inner =>
    show (some <$> read (write inner)) = _
    rw [restored inner rfl]
    rfl

/-- What an optional value was validated to is the validation of its value. An absent value is
validated to nothing. -/
theorem map_option_input (check : α → Except ε β) (input : Option α) (output : Option β)
    (accepted : input.mapM check = .ok output) (result : β) (present : result ∈ output) :
    ∃ value ∈ input, check value = .ok result := by
  cases input with
  | none =>
    cases accepted
    cases present
  | some value =>
    change (some <$> check value) = _ at accepted
    cases checked : check value with
    | error problem =>
      rw [checked] at accepted
      cases accepted
    | ok found =>
      rw [checked] at accepted
      cases accepted
      cases present
      exact ⟨value, rfl, checked⟩

end Library.Results
