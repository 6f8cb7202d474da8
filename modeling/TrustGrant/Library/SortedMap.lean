import Mathlib.Order.Lattice
import Mathlib.Data.List.Nodup
import Mathlib.Data.List.Perm.Basic
import Mathlib.Data.List.Forall2
import Mathlib.Data.List.Induction

/-!
# Ordered maps

A map kept as the list of its entries in strictly increasing key order, as an ordered
tree iterates over it. The order is part of the type, so two maps with the same
entries are equal. Collecting a sequence of entries keeps the last value of a key.
-/

namespace Library

universe u v
variable {κ : Type u} {ν : Type v}

/-- A map as its entries in increasing key order. -/
structure SortedMap (κ : Type u) (ν : Type v) [LT κ] where
  entries : List (κ × ν)
  sorted : entries.Pairwise fun earlier later => earlier.1 < later.1

namespace SortedMap

/-- Maps are determined by their entries. -/
theorem ext_entries [LT κ] (left right : SortedMap κ ν)
    (same : left.entries = right.entries) : left = right := by
  cases left
  cases right
  cases same
  rfl

/-- A map with decidable entries has decidable equality. -/
instance [LT κ] [DecidableEq κ] [DecidableEq ν] : DecidableEq (SortedMap κ ν) :=
  fun left right =>
    decidable_of_iff (left.entries = right.entries) ⟨ext_entries left right, congrArg entries⟩

/-- Look up a key. -/
def get [LT κ] [DecidableEq κ] (map : SortedMap κ ν) (key : κ) : Option ν :=
  (map.entries.find? fun entry => entry.1 = key).map Prod.snd

/-- What a lookup finds is an entry of its key. -/
theorem mem_of_get [LT κ] [DecidableEq κ] (map : SortedMap κ ν) (key : κ) (value : ν)
    (found : map.get key = some value) : (key, value) ∈ map.entries := by
  obtain ⟨entry, located, rfl⟩ := Option.map_eq_some_iff.mp found
  have sameKey : entry.1 = key := by simpa using List.find?_some located
  rw [← sameKey]
  exact List.mem_of_find?_eq_some located

/-- The number of entries. -/
def len [LT κ] (map : SortedMap κ ν) : Nat := map.entries.length

/-- The map without entries. -/
def empty [LT κ] : SortedMap κ ν := ⟨[], List.Pairwise.nil⟩

variable [LinearOrder κ]

/-- Put one entry into its place, replacing the value of an equal key. -/
def insertEntry (key : κ) (value : ν) : List (κ × ν) → List (κ × ν)
  | [] => [(key, value)]
  | entry :: rest =>
    if key < entry.1 then (key, value) :: entry :: rest
    else if entry.1 < key then entry :: insertEntry key value rest
    else (key, value) :: rest

/-- Insertion adds no entry besides the inserted one. The recursion stops at the first key that
is not smaller. -/
theorem mem_insert_entry (key : κ) (value : ν) (entries : List (κ × ν)) (entry : κ × ν)
    (member : entry ∈ insertEntry key value entries) :
    entry = (key, value) ∨ entry ∈ entries := by
  induction entries with
  | nil => exact .inl (List.mem_singleton.mp member)
  | cons first rest inductionHypothesis =>
    simp only [insertEntry] at member
    split at member
    · rcases List.mem_cons.mp member with inserted | kept
      · exact .inl inserted
      · exact .inr kept
    · split at member
      · rcases List.mem_cons.mp member with rfl | later
        · exact .inr List.mem_cons_self
        · rcases inductionHypothesis later with inserted | kept
          · exact .inl inserted
          · exact .inr (List.mem_cons_of_mem first kept)
      · rcases List.mem_cons.mp member with inserted | kept
        · exact .inl inserted
        · exact .inr (List.mem_cons_of_mem first kept)

/-- Insertion keeps the entries in increasing key order. At the place of insertion the new key
lies between its neighbours; further on the induction hypothesis applies to the rest. -/
theorem insert_entry_sorted (key : κ) (value : ν) (entries : List (κ × ν))
    (sorted : entries.Pairwise fun earlier later => earlier.1 < later.1) :
    (insertEntry key value entries).Pairwise fun earlier later => earlier.1 < later.1 := by
  induction entries with
  | nil => exact List.pairwise_singleton _ _
  | cons first rest inductionHypothesis =>
    obtain ⟨firstLeast, restSorted⟩ := List.pairwise_cons.mp sorted
    simp only [insertEntry]
    split
    · rename_i before
      refine List.pairwise_cons.mpr ⟨?_, sorted⟩
      intro entry member
      rcases List.mem_cons.mp member with rfl | later
      · exact before
      · exact lt_trans before (firstLeast entry later)
    · rename_i notBefore
      split
      · rename_i after
        refine List.pairwise_cons.mpr ⟨?_, inductionHypothesis restSorted⟩
        intro entry member
        rcases mem_insert_entry key value rest entry member with rfl | kept
        · exact after
        · exact firstLeast entry kept
      · rename_i notAfter
        have sameKey : first.1 = key := le_antisymm (not_lt.mp notBefore) (not_lt.mp notAfter)
        exact List.pairwise_cons.mpr ⟨sameKey ▸ firstLeast, restSorted⟩

/-- Insert one entry. -/
def insert (map : SortedMap κ ν) (key : κ) (value : ν) : SortedMap κ ν :=
  ⟨insertEntry key value map.entries, insert_entry_sorted key value map.entries map.sorted⟩

/-- Collect entries into a map; a later entry replaces an earlier one of its key. -/
def ofEntries (entries : List (κ × ν)) : SortedMap κ ν :=
  entries.foldl (fun map entry => map.insert entry.1 entry.2) empty

/-- Inserting a new key adds its entry. Where no key is equal nothing is replaced. -/
theorem insert_entry_perm (key : κ) (value : ν) (entries : List (κ × ν))
    (fresh : ∀ entry ∈ entries, entry.1 ≠ key) :
    (insertEntry key value entries).Perm ((key, value) :: entries) := by
  induction entries with
  | nil => exact List.Perm.refl _
  | cons first rest inductionHypothesis =>
    obtain ⟨firstFresh, restFresh⟩ := List.forall_mem_cons.mp fresh
    simp only [insertEntry]
    split
    · exact List.Perm.refl _
    · split
      · exact ((inductionHypothesis restFresh).cons first).trans (List.Perm.swap _ _ _)
      · rename_i notBefore notAfter
        exact absurd (le_antisymm (not_lt.mp notBefore) (not_lt.mp notAfter)) firstFresh

/-- Insertion lengthens a list of entries by at most one. It does not when it replaces the value
of its key. -/
theorem insert_entry_length (key : κ) (value : ν) (entries : List (κ × ν)) :
    (insertEntry key value entries).length ≤ entries.length + 1 := by
  induction entries with
  | nil => exact le_refl _
  | cons first rest inductionHypothesis =>
    simp only [insertEntry]
    split
    · exact le_refl _
    · split
      · exact Nat.succ_le_succ inductionHypothesis
      · exact Nat.le_succ _

/-- Collecting entries of different keys into a map keeps all of them. The induction is
generalized over the map that the earlier entries were collected into. -/
theorem of_entries_perm (entries : List (κ × ν)) (distinct : (entries.map Prod.fst).Nodup) :
    (ofEntries entries).entries.Perm entries := by
  have general : ∀ (later : List (κ × ν)) (map : SortedMap κ ν),
      ((map.entries ++ later).map Prod.fst).Nodup →
        (later.foldl (fun map entry => map.insert entry.1 entry.2) map).entries.Perm
          (map.entries ++ later) := by
    intro later
    induction later with
    | nil =>
      intro map _
      rw [List.append_nil]
      exact List.Perm.refl _
    | cons entry rest inductionHypothesis =>
      intro map different
      have fresh : ∀ other ∈ map.entries, other.1 ≠ entry.1 := by
        rw [List.map_append, List.nodup_append] at different
        exact fun other member => different.2.2 _ (List.mem_map_of_mem member) _ List.mem_cons_self
      have inserted : (map.insert entry.1 entry.2).entries.Perm (entry :: map.entries) :=
        insert_entry_perm entry.1 entry.2 map.entries fresh
      have shifted : ((map.insert entry.1 entry.2).entries ++ rest).Perm
          (map.entries ++ entry :: rest) :=
        (inserted.append_right rest).trans List.perm_middle.symm
      exact (inductionHypothesis _ ((shifted.map Prod.fst).nodup_iff.mpr different)).trans shifted
  exact general entries empty distinct

/-- Collecting entries into a map yields no more of them. Each step adds at most one. -/
theorem of_entries_len (entries : List (κ × ν)) : (ofEntries entries).len ≤ entries.length := by
  have general : ∀ (later : List (κ × ν)) (map : SortedMap κ ν),
      (later.foldl (fun map entry => map.insert entry.1 entry.2) map).len ≤
        map.len + later.length := by
    intro later
    induction later with
    | nil => exact fun map => le_refl _
    | cons entry rest inductionHypothesis =>
      intro map
      have grown : (map.insert entry.1 entry.2).len ≤ map.len + 1 :=
        insert_entry_length entry.1 entry.2 map.entries
      have rested := inductionHypothesis (map.insert entry.1 entry.2)
      rw [List.foldl_cons, List.length_cons]
      omega
  have collected := general entries empty
  rwa [show (empty : SortedMap κ ν).len = 0 from rfl, Nat.zero_add] at collected

/-- Every entry of a collected map is one of those it was collected from. Each step adds nothing
but its own entry. -/
theorem mem_of_entries (entries : List (κ × ν)) (entry : κ × ν)
    (member : entry ∈ (ofEntries entries).entries) : entry ∈ entries := by
  have general : ∀ (later : List (κ × ν)) (map : SortedMap κ ν),
      entry ∈ (later.foldl (fun map entry => map.insert entry.1 entry.2) map).entries →
        entry ∈ map.entries ∨ entry ∈ later := by
    intro later
    induction later with
    | nil => exact fun map inside => .inl inside
    | cons first rest inductionHypothesis =>
      intro map inside
      rcases inductionHypothesis _ inside with before | after
      · rcases mem_insert_entry first.1 first.2 map.entries entry before with rfl | kept
        · exact .inr List.mem_cons_self
        · exact .inl kept
      · exact .inr (List.mem_cons_of_mem first after)
  rcases general entries empty member with nothing | inside
  · cases nothing
  · exact inside

/-- The keys of a map are distinct. -/
theorem keys_nodup (map : SortedMap κ ν) : (map.entries.map Prod.fst).Nodup :=
  List.pairwise_map.mpr (map.sorted.imp fun before => ne_of_lt before)

/-- Every entry of a map is found under its key. The keys of a map are distinct, so no other
entry comes before it. -/
theorem get_of_mem [DecidableEq κ] (map : SortedMap κ ν) (key : κ) (value : ν)
    (member : (key, value) ∈ map.entries) : map.get key = some value := by
  cases located : map.entries.find? fun entry => entry.1 = key with
  | none =>
    have missing := List.find?_eq_none.mp located (key, value) member
    simp at missing
  | some entry =>
    have sameKey : entry.1 = key := by simpa using List.find?_some located
    have same : entry = (key, value) :=
      List.inj_on_of_nodup_map map.keys_nodup (List.mem_of_find?_eq_some located) member sameKey
    rw [get, located, Option.map_some, same]

/-- Collecting keeps the number of entries exactly when their keys are distinct. Otherwise some
key has two entries and the map has one. -/
theorem of_entries_len_eq_iff (entries : List (κ × ν)) :
    (ofEntries entries).len = entries.length ↔ (entries.map Prod.fst).Nodup := by
  constructor
  · intro sameLength
    have within : (ofEntries entries).entries.map Prod.fst ⊆ entries.map Prod.fst := by
      intro key listed
      obtain ⟨entry, member, rfl⟩ := List.mem_map.mp listed
      exact List.mem_map_of_mem (mem_of_entries entries entry member)
    have same : ((ofEntries entries).entries.map Prod.fst).Perm (entries.map Prod.fst) := by
      refine (List.subperm_of_subset (ofEntries entries).keys_nodup within).perm_of_length_le ?_
      rw [List.length_map, List.length_map]
      exact sameLength.ge
    exact same.nodup_iff.mp (ofEntries entries).keys_nodup
  · exact fun distinct => (of_entries_perm entries distinct).length_eq

/-- Collecting the entries of a map in any order yields the map. Keys are distinct, so nothing is
replaced, and an ordered map is determined by its entries. -/
theorem of_entries_of_perm (map : SortedMap κ ν) (entries : List (κ × ν))
    (same : entries.Perm map.entries) : ofEntries entries = map := by
  have distinct : (entries.map Prod.fst).Nodup := (same.map Prod.fst).nodup_iff.mpr map.keys_nodup
  apply ext_entries
  refine List.Perm.eq_of_pairwise ?_ (ofEntries entries).sorted map.sorted
    ((of_entries_perm entries distinct).trans same)
  intro first second _ _ before after
  exact absurd (lt_trans before after) (lt_irrefl _)

/-- After an insertion the key has the inserted value, and the other keys have what they had. The
order of the entries makes the recursion stop at the right place, so the induction needs it. -/
theorem mem_insert_iff (map : SortedMap κ ν) (key : κ) (value : ν) (entry : κ × ν) :
    entry ∈ (map.insert key value).entries ↔
      entry = (key, value) ∨ entry ∈ map.entries ∧ entry.1 ≠ key := by
  have general : ∀ entries : List (κ × ν),
      (entries.Pairwise fun earlier later => earlier.1 < later.1) →
        (entry ∈ insertEntry key value entries ↔
          entry = (key, value) ∨ entry ∈ entries ∧ entry.1 ≠ key) := by
    intro entries sorted
    induction entries with
    | nil => simp [insertEntry]
    | cons first rest inductionHypothesis =>
      obtain ⟨firstLeast, restSorted⟩ := List.pairwise_cons.mp sorted
      simp only [insertEntry]
      split
      · rename_i before
        have others : ∀ other ∈ first :: rest, other.1 ≠ key := by
          refine List.forall_mem_cons.mpr ⟨before.ne', fun other member => ?_⟩
          exact (before.trans (firstLeast other member)).ne'
        rw [List.mem_cons]
        exact or_congr_right (and_iff_left_of_imp (others entry)).symm
      · split
        · rename_i after
          rw [List.mem_cons, List.mem_cons, inductionHypothesis restSorted, or_and_right,
            or_left_comm]
          refine or_congr_right (or_congr_left (and_iff_left_of_imp ?_).symm)
          rintro rfl
          exact after.ne
        · rename_i notBefore notAfter
          have sameKey : first.1 = key := le_antisymm (not_lt.mp notBefore) (not_lt.mp notAfter)
          have others : ∀ other ∈ rest, other.1 ≠ key := fun other member =>
            sameKey ▸ (firstLeast other member).ne'
          rw [List.mem_cons, List.mem_cons, or_and_right]
          refine or_congr_right ⟨fun kept => .inr ⟨kept, others entry kept⟩, ?_⟩
          rintro (⟨rfl, other⟩ | ⟨kept, -⟩)
          · exact absurd sameKey other
          · exact kept
  exact general map.entries map.sorted

/-- A collected map has the last entry of each key. The induction is from the end of the list:
the last entry replaces whatever its key had. -/
theorem mem_of_entries_iff (entries : List (κ × ν)) (entry : κ × ν) :
    entry ∈ (ofEntries entries).entries ↔
      (entries.filter fun other => other.1 = entry.1).getLast? = some entry := by
  induction entries using List.reverseRecOn with
  | nil => exact iff_of_false List.not_mem_nil (by simp)
  | append_singleton entries last inductionHypothesis =>
    have collected : ofEntries (entries ++ [last]) = (ofEntries entries).insert last.1 last.2 := by
      rw [ofEntries, List.foldl_append]
      rfl
    rw [collected, mem_insert_iff, inductionHypothesis, List.filter_append]
    by_cases same : last.1 = entry.1
    · have isKept : ([last].filter fun other => other.1 = entry.1) = [last] := by simp [same]
      rw [isKept, List.getLast?_concat, Option.some.injEq]
      refine ⟨?_, fun isLast => .inl isLast.symm⟩
      rintro (isLast | ⟨-, other⟩)
      · exact isLast.symm
      · exact absurd same.symm other
    · have isLeftOut : ([last].filter fun other => other.1 = entry.1) = [] := by simp [same]
      rw [isLeftOut, List.append_nil]
      refine ⟨?_, fun kept => .inr ⟨kept, Ne.symm same⟩⟩
      rintro (rfl | ⟨kept, -⟩)
      · exact absurd rfl same
      · exact kept

/-- Lists that give each key the same entries in the same order are collected into one map. For
each key the last entry counts, and this is the same in both lists. -/
theorem of_entries_congr (entries others : List (κ × ν))
    (same : ∀ key, (entries.filter fun entry => entry.1 = key) =
      others.filter fun entry => entry.1 = key) : ofEntries entries = ofEntries others := by
  have distinct (collected : SortedMap κ ν) : collected.entries.Nodup :=
    List.Nodup.of_map Prod.fst collected.keys_nodup
  have permuted : (ofEntries entries).entries.Perm (ofEntries others).entries := by
    refine (List.perm_ext_iff_of_nodup (distinct _) (distinct _)).mpr fun entry => ?_
    rw [mem_of_entries_iff, mem_of_entries_iff, same]
  exact (of_entries_of_perm _ _ (List.Perm.refl _)).symm.trans
    (of_entries_of_perm _ _ permuted)

variable {κ' : Type u} {ν' : Type v} [LinearOrder κ'] (map : SortedMap κ ν) {rename : κ → κ'}

/-- Renaming the keys of a map apart keeps all of its entries. -/
theorem of_renamed_perm (apart : Function.Injective rename) (convert : ν → ν') :
    (ofEntries (map.entries.map fun entry => (rename entry.1, convert entry.2))).entries.Perm
      (map.entries.map fun entry => (rename entry.1, convert entry.2)) := by
  refine of_entries_perm _ ?_
  have renamed := map.keys_nodup.map apart
  rw [List.map_map] at renamed ⊢
  exact renamed

/-- A map is read back from its renamed entries when each of its entries is. Renaming may change
the order of the keys on the way; the map that is collected at the end does not depend on it. -/
theorem of_renamed_back (apart : Function.Injective rename) (convert : ν → ν')
    {related : κ' × ν' → κ × ν → Prop}
    (restored : ∀ entry ∈ map.entries, related (rename entry.1, convert entry.2) entry) :
    ∃ entries, List.Forall₂ related
        (ofEntries
          (map.entries.map fun entry => (rename entry.1, convert entry.2))).entries entries ∧
      ofEntries entries = map := by
  have paired : List.Forall₂ related
      (map.entries.map fun entry => (rename entry.1, convert entry.2)) map.entries := by
    rw [List.forall₂_map_left_iff, List.forall₂_same]
    exact restored
  obtain ⟨entries, read, same⟩ :=
    List.perm_comp_forall₂ (map.of_renamed_perm apart convert) paired
  exact ⟨entries, read, of_entries_of_perm map entries same⟩

end SortedMap

end Library
