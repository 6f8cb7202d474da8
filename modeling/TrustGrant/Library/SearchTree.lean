import TrustGrant.Library.SortedMap

/-!
# Search trees

A map kept as a tree in which a search compares the sought key with one entry after another.
A node with several entries is a chain: its keys are tried in their order, and the edge
before the first larger key, or the one after the last, is followed. The shape of the tree
is arbitrary; its keys increase from left to right.

A search may be directed by another comparison than the one the keys are ordered by. It
then finds a key exactly when the two agree at every key on the way to it.
-/

namespace Library

universe u v
variable {κ : Type u} {ν : Type v}

/-- A tree of entries. -/
inductive SearchTree (κ : Type u) (ν : Type v) where
  | empty
  | entry (before : SearchTree κ ν) (key : κ) (value : ν) (after : SearchTree κ ν)

namespace SearchTree

/-- The entries from left to right. -/
def entries : SearchTree κ ν → List (κ × ν)
  | empty => []
  | entry before key value after => before.entries ++ (key, value) :: after.entries

/-- Search by a comparison of what is sought with a key of the tree. -/
def search (seek : κ → Ordering) : SearchTree κ ν → Option ν
  | empty => none
  | entry before key value after =>
    match seek key with
    | .lt => before.search seek
    | .eq => some value
    | .gt => after.search seek

/-- What a search finds is an entry at which it stops. This holds in any tree, ordered or not. -/
theorem mem_of_search (seek : κ → Ordering) (tree : SearchTree κ ν) (value : ν)
    (found : tree.search seek = some value) :
    ∃ key, seek key = .eq ∧ (key, value) ∈ tree.entries := by
  induction tree with
  | empty => cases found
  | entry before key stored after beforeHypothesis afterHypothesis =>
    simp only [search] at found
    split at found
    · obtain ⟨other, stops, member⟩ := beforeHypothesis found
      exact ⟨other, stops, List.mem_append_left _ member⟩
    · rename_i stops
      cases found
      exact ⟨key, stops, List.mem_append_right _ List.mem_cons_self⟩
    · obtain ⟨other, stops, member⟩ := afterHypothesis found
      exact ⟨other, stops, List.mem_append_right _ (List.mem_cons_of_mem _ member)⟩

/-- A search stops nowhere but at the sought key. -/
def Stops (seek : κ → Ordering) (sought : κ) : Prop := ∀ key, seek key = .eq ↔ key = sought

/-- A search that goes the wrong way at the key of a tree does not find what is on the other
side of it. -/
theorem search_side (seek : κ → Ordering) (sought : κ) (stops : Stops seek sought)
    (tree : SearchTree κ ν) (elsewhere : ∀ other ∈ tree.entries, other.1 ≠ sought) :
    tree.search seek = none := by
  cases found : tree.search seek with
  | none => rfl
  | some value =>
    obtain ⟨key, stopped, member⟩ := mem_of_search seek tree value found
    exact absurd ((stops key).mp stopped) (elsewhere _ member)

/-- Two entries of a tree are in the order of their keys. -/
def Ordered [LT κ] (tree : SearchTree κ ν) : Prop :=
  tree.entries.Pairwise fun earlier later => earlier.1 < later.1

variable [LinearOrder κ]

/-- The keys on the way to a key in the order of the tree. -/
def route (sought : κ) : SearchTree κ ν → List κ
  | empty => []
  | entry before key _ after =>
    key :: if sought < key then before.route sought
      else if key < sought then after.route sought else []

/-- The parts of an ordered tree are ordered and stand on their side of the key. The order is
that of the listed entries, so this is a fact about appended lists. -/
theorem ordered_entry_iff (before after : SearchTree κ ν) (key : κ) (value : ν) :
    (entry before key value after).Ordered ↔
      before.Ordered ∧ after.Ordered ∧ (∀ other ∈ before.entries, other.1 < key) ∧
        ∀ other ∈ after.entries, key < other.1 := by
  rw [Ordered, entries, List.pairwise_append, List.pairwise_cons]
  constructor
  · rintro ⟨beforeOrdered, ⟨smallest, afterOrdered⟩, across⟩
    exact ⟨beforeOrdered, afterOrdered,
      fun other member => across other member _ List.mem_cons_self, smallest⟩
  · rintro ⟨beforeOrdered, afterOrdered, largest, smallest⟩
    refine ⟨beforeOrdered, ⟨smallest, afterOrdered⟩, fun other member => ?_⟩
    exact List.forall_mem_cons.mpr ⟨largest other member,
      fun later inside => lt_trans (largest other member) (smallest later inside)⟩

/-- A key of an ordered tree is found exactly when the search goes the right way at every key
on the way to it. -/
theorem search_some_iff (seek : κ → Ordering) (sought : κ) (stops : Stops seek sought)
    (tree : SearchTree κ ν) (ordered : tree.Ordered) (value : ν)
    (present : (sought, value) ∈ tree.entries) :
    tree.search seek = some value ↔
      ∀ key ∈ tree.route sought, seek key = compare sought key := by
  induction tree with
  | empty => cases present
  | entry before key stored after beforeHypothesis afterHypothesis =>
    obtain ⟨beforeOrdered, afterOrdered, largest, smallest⟩ :=
      (ordered_entry_iff before after key stored).mp ordered
    rw [entries, List.mem_append, List.mem_cons] at present
    rw [route, List.forall_mem_cons]
    rcases lt_trichotomy sought key with smaller | same | larger
    · have inside : (sought, value) ∈ before.entries := by
        rcases present with inside | same | inside
        · exact inside
        · exact absurd (congrArg Prod.fst same) (ne_of_lt smaller)
        · exact absurd (smallest _ inside) (lt_asymm smaller)
      have absent : after.search seek = none :=
        search_side seek sought stops after fun other member =>
          ne_of_gt (lt_trans smaller (smallest other member))
      have direction : compare sought key = .lt := compare_lt_iff_lt.mpr smaller
      rw [if_pos smaller, direction, ← beforeHypothesis beforeOrdered inside, search]
      cases went : seek key with
      | lt => simp
      | eq => exact absurd ((stops key).mp went) (ne_of_gt smaller)
      | gt => simp [absent]
    · subst same
      have inside : (sought, value) = (sought, stored) := by
        rcases present with inside | same | inside
        · exact absurd (largest _ inside) (lt_irrefl _)
        · exact same
        · exact absurd (smallest _ inside) (lt_irrefl _)
      have stopped : seek sought = .eq := (stops sought).mpr rfl
      cases inside
      simp [search, stopped]
    · have inside : (sought, value) ∈ after.entries := by
        rcases present with inside | same | inside
        · exact absurd (largest _ inside) (lt_asymm larger)
        · exact absurd (congrArg Prod.fst same) (ne_of_gt larger)
        · exact inside
      have absent : before.search seek = none :=
        search_side seek sought stops before fun other member =>
          ne_of_lt (lt_trans (largest other member) larger)
      have direction : compare sought key = .gt := compare_gt_iff_gt.mpr larger
      rw [if_neg (lt_asymm larger), if_pos larger, direction,
        ← afterHypothesis afterOrdered inside, search]
      cases went : seek key with
      | lt => simp [absent]
      | eq => exact absurd ((stops key).mp went) (ne_of_lt larger)
      | gt => simp

/-- Whether a search finds its key: the key is absent, or the search goes the right way at
every key on the way to it. -/
theorem search_found_iff (seek : κ → Ordering) (sought : κ) (stops : Stops seek sought)
    (tree : SearchTree κ ν) (ordered : tree.Ordered) :
    ((tree.search seek).isSome = true ↔ ∃ value, (sought, value) ∈ tree.entries) ↔
      ((∃ value, (sought, value) ∈ tree.entries) →
        ∀ key ∈ tree.route sought, seek key = compare sought key) := by
  constructor
  · rintro found ⟨value, present⟩
    obtain ⟨other, located⟩ := Option.isSome_iff_exists.mp (found.mpr ⟨value, present⟩)
    obtain ⟨key, stopped, member⟩ := mem_of_search seek tree other located
    rw [(stops key).mp stopped] at member
    exact (search_some_iff seek sought stops tree ordered other member).mp located
  · intro right
    constructor
    · intro found
      obtain ⟨value, located⟩ := Option.isSome_iff_exists.mp found
      obtain ⟨key, stopped, member⟩ := mem_of_search seek tree value located
      exact ⟨value, (stops key).mp stopped ▸ member⟩
    · rintro ⟨value, present⟩
      have located := (search_some_iff seek sought stops tree ordered value present).mpr
        (right ⟨value, present⟩)
      rw [located]
      rfl

end SearchTree

end Library
