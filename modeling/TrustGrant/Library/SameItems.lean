import Mathlib.Data.List.Nodup
import Mathlib.Data.List.Perm.Basic
import Mathlib.Data.Option.Basic

/-!
# Lists with the same items

Two lists have the same items up to a relation when every item of each has a related one in
the other. Order and repetition do not matter. What is said about a list by quantifying over
its items, or by searching it for a key that no two items share, is said alike about both.
-/

namespace Library

universe u v w
variable {α : Type u} {β : Type v} {κ : Type w}

/-- Every item of either list has a related one in the other. -/
structure SameItems (Related : α → β → Prop) (first : List α) (second : List β) : Prop where
  forth : ∀ item ∈ first, ∃ other ∈ second, Related item other
  back : ∀ other ∈ second, ∃ item ∈ first, Related item other

namespace SameItems

variable {Related : α → β → Prop} {first : List α} {second : List β}

/-- Permuted lists have the same items. -/
theorem of_perm {Related : α → α → Prop} (reflexive : ∀ item, Related item item)
    {first second : List α} (permuted : first.Perm second) : SameItems Related first second where
  forth item member := ⟨item, permuted.mem_iff.mp member, reflexive item⟩
  back item member := ⟨item, permuted.mem_iff.mpr member, reflexive item⟩

/-- The first list has an item with a property exactly when the second has one with a
property that related items share with it. -/
theorem exists_iff (same : SameItems Related first second) {Holds : α → Prop}
    {HoldsToo : β → Prop}
    (alike : ∀ item other, Related item other → (Holds item ↔ HoldsToo other)) :
    (∃ item ∈ first, Holds item) ↔ ∃ other ∈ second, HoldsToo other := by
  constructor
  · rintro ⟨item, member, holds⟩
    obtain ⟨other, inside, related⟩ := same.forth item member
    exact ⟨other, inside, (alike item other related).mp holds⟩
  · rintro ⟨other, inside, holds⟩
    obtain ⟨item, member, related⟩ := same.back other inside
    exact ⟨item, member, (alike item other related).mpr holds⟩

/-- Either both lists are empty or neither is. An item of the one has a counterpart in the
other. -/
theorem empty_iff (same : SameItems Related first second) : first = [] ↔ second = [] := by
  constructor
  · rintro rfl
    refine List.eq_nil_iff_forall_not_mem.mpr fun other inside => ?_
    obtain ⟨item, member, -⟩ := same.back other inside
    exact List.not_mem_nil member
  · rintro rfl
    refine List.eq_nil_iff_forall_not_mem.mpr fun item member => ?_
    obtain ⟨other, inside, -⟩ := same.forth item member
    exact List.not_mem_nil inside

/-- Among items with distinct keys the one with a key is found. Without distinctness the first
one would be, whichever that is. -/
theorem find_of_distinct [DecidableEq κ] (keyOf : α → κ) (items : List α)
    (distinct : (items.map keyOf).Nodup) (item : α) (member : item ∈ items) :
    items.find? (fun candidate => keyOf candidate = keyOf item) = some item := by
  induction items with
  | nil => cases member
  | cons head rest inductionHypothesis =>
    obtain ⟨fresh, distinctRest⟩ := List.nodup_cons.mp distinct
    rcases List.mem_cons.mp member with rfl | later
    · simp
    · have apart : keyOf head ≠ keyOf item := by
        intro same
        exact fresh (same ▸ List.mem_map_of_mem later)
      rw [List.find?_cons_of_neg (by simpa using apart)]
      exact inductionHypothesis distinctRest later

/-- A search for a key that no two items share finds related items in both lists, or
nothing in either. -/
theorem find_related [DecidableEq κ] (same : SameItems Related first second) (keyOf : α → κ)
    (keyToo : β → κ) (sameKey : ∀ item other, Related item other → keyOf item = keyToo other)
    (distinct : (first.map keyOf).Nodup) (distinctToo : (second.map keyToo).Nodup) (key : κ) :
    Option.Rel Related (first.find? fun item => keyOf item = key)
      (second.find? fun other => keyToo other = key) := by
  by_cases present : ∃ item ∈ first, keyOf item = key
  · obtain ⟨item, member, rfl⟩ := present
    obtain ⟨other, inside, related⟩ := same.forth item member
    rw [find_of_distinct keyOf first distinct item member, sameKey item other related,
      find_of_distinct keyToo second distinctToo other inside]
    exact .some related
  · have absent : first.find? (fun item => keyOf item = key) = none := by
      simpa [List.find?_eq_none] using present
    have absentToo : second.find? (fun other => keyToo other = key) = none := by
      have alike : ∀ item other, Related item other → (keyOf item = key ↔ keyToo other = key) :=
        fun item other related => by rw [sameKey item other related]
      have nothing := (exists_iff same alike).not.mp present
      simpa [List.find?_eq_none] using nothing
    rw [absent, absentToo]
    exact .none

end SameItems

end Library
