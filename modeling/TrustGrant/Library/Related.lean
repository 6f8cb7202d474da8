import Mathlib.Logic.Relation

/-!
# Two computations that end alike

Two fallible computations end alike when they fail with one problem or return related
values. The relation is closed under sequencing, so two runs of one program on related
data are compared step by step, as in a relational program logic.
-/

namespace Library.Related

universe u v
variable {ε : Type u} {α β γ δ : Type v}

/-- Both fail with one problem, or both return and their values are related. -/
inductive EndAlike (Relates : α → β → Prop) : Except ε α → Except ε β → Prop
  | failed (problem : ε) : EndAlike Relates (.error problem) (.error problem)
  | returned (first : α) (second : β) (related : Relates first second) :
      EndAlike Relates (.ok first) (.ok second)

/-- Values that are related are returned alike. -/
theorem EndAlike.pure {Relates : α → β → Prop} {first : α} {second : β}
    (related : Relates first second) :
    EndAlike (ε := ε) Relates (Pure.pure first) (Pure.pure second) :=
  .returned first second related

/-- Computations whose results are equal end alike. -/
theorem EndAlike.of_eq {Relates : α → α → Prop} (reflexive : ∀ value, Relates value value)
    {first second : Except ε α} (same : first = second) : EndAlike Relates first second := by
  subst same
  cases first with
  | error problem => exact .failed problem
  | ok value => exact .returned value value (reflexive value)

/-- The rule for a sequence: the first steps end alike, and from related values so do
the steps that follow. -/
theorem EndAlike.bind {Relates : α → β → Prop} {RelatesAfter : γ → δ → Prop}
    {first : Except ε α} {second : Except ε β} {firstNext : α → Except ε γ}
    {secondNext : β → Except ε δ} (ended : EndAlike Relates first second)
    (next : ∀ value other, Relates value other →
      EndAlike RelatesAfter (firstNext value) (secondNext other)) :
    EndAlike RelatesAfter (first >>= firstNext) (second >>= secondNext) := by
  cases ended with
  | failed problem => exact .failed problem
  | returned value other related => exact next value other related

/-- The rule for a sequence whose first steps are equal. -/
theorem EndAlike.bind_of_eq {RelatesAfter : γ → δ → Prop} {first second : Except ε α}
    {firstNext : α → Except ε γ} {secondNext : α → Except ε δ} (same : first = second)
    (next : ∀ value, EndAlike RelatesAfter (firstNext value) (secondNext value)) :
    EndAlike RelatesAfter (first >>= firstNext) (second >>= secondNext) := by
  refine .bind (.of_eq (fun _ => rfl) same) ?_
  rintro value _ rfl
  exact next value

end Library.Related
