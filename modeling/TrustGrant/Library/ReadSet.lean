import TrustGrant.Library.Results

/-!
# What a computation reads from a store

A computation on a store that looks keys up gives the same result on every store that
answers the same under the keys it looks up. Which keys these are depends on the store: a
check that fails ends the computation, and what follows it is not looked up.

The rules follow the way such computations are written, so the keys of a sequence of steps
are those of its first step, then those of the rest when the first succeeds.
-/

namespace Library.ReadSet

universe u v w t
variable {σ : Type u} {κ ν : Type v} {ε α β : Type w} {γ : Type t}

/-- A computation depends on what it finds under some keys, and on nothing else. -/
def DependsOn (find : σ → κ → Option ν) (run : σ → α) (state : σ) (lookups : List κ) : Prop :=
  ∀ other, (∀ key ∈ lookups, find other key = find state key) → run other = run state

/-- The keys that are looked up after a step, when it succeeds. -/
def after (result : Except ε α) (lookups : α → List κ) : List κ :=
  match result with
  | .ok value => lookups value
  | .error _ => []

variable {find : σ → κ → Option ν} {state : σ}

/-- What is the same for all stores reads nothing. -/
theorem const (value : α) (lookups : List κ) :
    DependsOn find (fun _ => value) state lookups := fun _ _ => rfl

/-- A step that reads nothing is followed by what it leads to. A failure ends the computation,
and then nothing more is read. -/
theorem bind_const (result : Except ε α) (next : σ → α → Except ε β) (lookups : α → List κ)
    (later : ∀ value, result = .ok value →
      DependsOn find (fun state => next state value) state (lookups value)) :
    DependsOn find (fun state => result >>= next state) state (after result lookups) := by
  intro other same
  cases result with
  | error problem => rfl
  | ok value => exact later value rfl other same

/-- A sequence reads what its first step reads, then what that leads to. A state that agrees on
both returns the same first value and goes on in the same way. -/
theorem bind (first : σ → Except ε α) (next : σ → α → Except ε β) (firstLookups : List κ)
    (lookups : α → List κ) (dependsFirst : DependsOn find first state firstLookups)
    (later : ∀ value, first state = .ok value →
      DependsOn find (fun state => next state value) state (lookups value)) :
    DependsOn find (fun state => first state >>= next state) state
      (firstLookups ++ after (first state) lookups) := by
  intro other same
  obtain ⟨sameFirst, sameLater⟩ := List.forall_mem_append.mp same
  show first other >>= next other = first state >>= next state
  rw [dependsFirst other sameFirst]
  cases answered : first state with
  | error problem => rfl
  | ok value =>
    rw [answered] at sameLater
    exact later value answered other sameLater

/-- What a sequence ends with may read nothing. -/
theorem bind_last (first : σ → Except ε α) (next : α → Except ε β) (lookups : List κ)
    (dependsFirst : DependsOn find first state lookups) :
    DependsOn find (fun state => first state >>= next) state lookups := by
  intro other same
  show first other >>= next = first state >>= next
  rw [dependsFirst other same]

/-- The keys that a step looks up for one item after the other, up to the first failure. -/
def each (step : γ → Except ε β) (lookups : γ → List κ) : List γ → List κ
  | [] => []
  | item :: rest => lookups item ++ after (step item) fun _ => each step lookups rest

/-- A traversal reads what its step reads for each item. The items after a failing one are not
visited, which the collected keys reflect. -/
theorem traverse (step : σ → γ → Except ε β) (lookups : γ → List κ) (items : List γ)
    (depends : ∀ item, DependsOn find (fun state => step state item) state (lookups item)) :
    DependsOn find (fun state => items.mapM (step state)) state
      (each (step state) lookups items) := by
  induction items with
  | nil => exact fun _ _ => rfl
  | cons item rest inductionHypothesis =>
    simp only [List.mapM_cons]
    exact bind _ _ _ _ (depends item) fun _ _ => bind_last _ _ _ inductionHypothesis

/-- What holds of the keys that each successful step looks up holds of all keys of a
traversal that succeeds. -/
theorem each_of_succeeded (step : γ → Except ε β) (lookups : γ → List κ) (Holds : κ → Prop)
    (holds : ∀ item value, step item = .ok value → ∀ key ∈ lookups item, Holds key)
    (items : List γ) (results : List β) (succeeded : items.mapM step = .ok results) :
    ∀ key ∈ each step lookups items, Holds key := by
  induction items generalizing results with
  | nil => exact fun key member => absurd member List.not_mem_nil
  | cons item rest inductionHypothesis =>
    rw [List.mapM_cons, Results.bind_ok_iff] at succeeded
    obtain ⟨value, stepped, remaining⟩ := succeeded
    obtain ⟨later, ran, -⟩ := (Results.bind_ok_iff _ _ _).mp remaining
    intro key member
    rw [each, stepped, List.mem_append] at member
    rcases member with first | others
    · exact holds item value stepped key first
    · exact inductionHypothesis later ran key others

/-- A computation that finds an entry under every key it looks up gives the same result on
every store that keeps the entries of the state. -/
theorem stable_of_found {run : σ → α} {lookups : List κ}
    (depends : DependsOn find run state lookups) (other : σ)
    (kept : ∀ key entry, find state key = some entry → find other key = some entry)
    (found : ∀ key ∈ lookups, find state key ≠ none ∨ find other key = find state key) :
    run other = run state := by
  refine depends other fun key looked => ?_
  rcases found key looked with present | same
  · obtain ⟨entry, located⟩ := Option.ne_none_iff_exists'.mp present
    rw [located, kept key entry located]
  · exact same

end Library.ReadSet
