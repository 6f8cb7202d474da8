/-!
# Calls that change a value in place

A method on a mutable value leaves a state behind and returns a result. An early return
leaves the state as it stands at that moment, so a method that checks everything before it
changes anything leaves it untouched when it fails.
-/

namespace Library.InPlace

universe u v w
variable {σ : Type u} {ε : Type v} {α : Type w}

/-- The state a method leaves behind and its result. -/
abbrev Call (σ : Type u) (ε : Type v) := σ × Except ε Unit

/-- `?`: an error is returned at once, and the state stays as it is. -/
def orReturn (state : σ) (checked : Except ε α) (next : α → Call σ ε) : Call σ ε :=
  match checked with
  | .error problem => (state, .error problem)
  | .ok value => next value

/-- A success goes on with its value. -/
@[simp] theorem or_return_ok (state : σ) (value : α) (next : α → Call σ ε) :
    orReturn state (.ok value) next = next value := rfl

/-- An error ends the call and leaves the state as it is at this point. -/
@[simp] theorem or_return_error (state : σ) (problem : ε) (next : α → Call σ ε) :
    orReturn state (.error problem) next = (state, .error problem) := rfl

/-- The call of a method that returns the changed state, or fails without one. -/
def ofResult (state : σ) (result : Except ε σ) : Call σ ε :=
  match result with
  | .error problem => (state, .error problem)
  | .ok changed => (changed, .ok ())

/-- A function that returns a changed state changes it. -/
@[simp] theorem of_result_ok (state changed : σ) :
    ofResult state (.ok changed : Except ε σ) = (changed, .ok ()) := rfl

/-- A function that fails changes nothing. -/
@[simp] theorem of_result_error (state : σ) (problem : ε) :
    ofResult state (.error problem) = (state, .error problem) := rfl

/-- Checks before a call may be made in place or in the call. -/
theorem or_return_of_result (state : σ) (checked : Except ε α) (next : α → Except ε σ) :
    orReturn state checked (fun value => ofResult state (next value)) =
      ofResult state (checked.bind next) := by
  cases checked with
  | error problem => rfl
  | ok value => rfl

end Library.InPlace
