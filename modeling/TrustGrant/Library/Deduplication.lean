import Mathlib.Data.List.Nodup

/-!
# Lists without repetitions

Erasing duplicates keeps the first of equal elements: what remains is a part of the list
without repetitions, and it is the whole list when that has none.
-/

namespace Library.Deduplication

universe u
variable {α : Type u} [DecidableEq α]

/-- Erasing duplicates goes on with a shorter list. -/
theorem others_shorter (value : α) (rest : List α) :
    (rest.filter fun other => !other == value).length < (value :: rest).length :=
  Nat.lt_succ_of_le (List.length_filter_le _ _)

/-- What remains is a part of the list, in its order. The induction is on the length, as each
step removes later equals of one element. -/
theorem erase_dups_sublist (values : List α) : values.eraseDups.Sublist values := by
  match values with
  | [] => exact List.Sublist.refl _
  | value :: rest =>
    rw [List.eraseDups_cons]
    exact ((erase_dups_sublist _).trans List.filter_sublist).cons_cons value
termination_by values.length
decreasing_by exact others_shorter value rest

/-- What remains has no repetitions. An element is kept only when no equal one was kept before
it. -/
theorem erase_dups_nodup (values : List α) : values.eraseDups.Nodup := by
  match values with
  | [] => exact List.nodup_nil
  | value :: rest =>
    rw [List.eraseDups_cons]
    refine List.nodup_cons.mpr ⟨fun member => ?_, erase_dups_nodup _⟩
    have other := (List.mem_filter.mp (List.mem_eraseDups.mp member)).2
    simp at other
termination_by values.length
decreasing_by exact others_shorter value rest

/-- A list without repetitions is left alone. Each item differs from all later ones, so none of
these is dropped. -/
theorem erase_dups_of_nodup (values : List α) (distinct : values.Nodup) :
    values.eraseDups = values := by
  induction values with
  | nil => rfl
  | cons value rest inductionHypothesis =>
    obtain ⟨fresh, restDistinct⟩ := List.nodup_cons.mp distinct
    have kept : (rest.filter fun other => !other == value) = rest := by
      refine List.filter_eq_self.mpr fun other member => ?_
      have different : other ≠ value := fun same => fresh (same ▸ member)
      simp [different]
    rw [List.eraseDups_cons, kept, inductionHypothesis restDistinct]

omit [DecidableEq α] in
/-- Where no two elements share a key, an element is the only one with its key. The induction
asks whether the element is the first one. -/
theorem filter_key {κ : Type*} [DecidableEq κ] (key : α → κ) (values : List α)
    (distinct : values.Pairwise fun earlier later => key later ≠ key earlier) (value : α)
    (member : value ∈ values) : (values.filter fun other => key other = key value) = [value] := by
  induction values with
  | nil => cases member
  | cons first rest inductionHypothesis =>
    obtain ⟨firstApart, restDistinct⟩ := List.pairwise_cons.mp distinct
    rcases List.mem_cons.mp member with rfl | later
    · have others : (rest.filter fun other => key other = key value) = [] :=
        List.filter_eq_nil_iff.mpr fun other inside => by simpa using firstApart other inside
      rw [List.filter_cons_of_pos (by simp), others]
    · have apart : ¬ key first = key value := (firstApart value later).symm
      rw [List.filter_cons_of_neg (by simpa using apart)]
      exact inductionHypothesis restDistinct later

end Library.Deduplication
