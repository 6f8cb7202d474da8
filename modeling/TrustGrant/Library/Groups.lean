import TrustGrant.Library.Deduplication
import Mathlib.Data.Finset.Card

/-!
# Values grouped under keys

Values are inserted one after the other, each under a key. Keys of one name are the same key,
whichever way they are spelled. A list of groups collects such a history when it has one group
for each name, with the key that came first and with the values that were inserted under the
name, each where it came first.
-/

namespace Library.Groups

universe u v w
variable {κ : Type u} {α : Type v} {ι : Type w} [DecidableEq α] [DecidableEq ι] (name : κ → ι)

/-- The values that were inserted under a name, each where it came first. -/
def valuesUnder (history : List (κ × α)) (asked : ι) : List α :=
  ((history.filter fun item => name item.1 = asked).map Prod.snd).eraseDups

/-- The key under which a name was inserted first. -/
def firstKey (history : List (κ × α)) (asked : ι) : Option κ :=
  (history.map Prod.fst).find? fun key => name key = asked

/-- The names under which something was inserted. -/
def names (history : List (κ × α)) : Finset ι :=
  (history.map fun item => name item.1).toFinset

variable {name} {history : List (κ × α)} {key : κ} {value : α} {asked : ι}

/-- A value that is inserted again under a name, or under another name, changes nothing. The
values of a name are what is left of its insertions without repetitions. -/
theorem values_under_kept
    (kept : name key = asked → value ∈ valuesUnder name history asked) :
    valuesUnder name (history ++ [(key, value)]) asked = valuesUnder name history asked := by
  unfold valuesUnder at *
  rw [List.filter_append, List.map_append, List.eraseDups_append]
  by_cases named : name key = asked
  · have listed := List.mem_eraseDups.mp (kept named)
    simp only [named, List.removeAll, List.filter_cons, decide_true, if_true, List.filter_nil,
      List.map_cons, List.map_nil, List.elem_eq_true_of_mem listed, Bool.not_true,
      Bool.false_eq_true, if_false, List.eraseDups_nil, List.append_nil]
  · simp [named, List.removeAll]

/-- A value that is new under a name becomes the last one. The order in which values came first
is the order of the group. -/
theorem values_under_added (named : name key = asked)
    (fresh : value ∉ valuesUnder name history asked) :
    valuesUnder name (history ++ [(key, value)]) asked =
      valuesUnder name history asked ++ [value] := by
  unfold valuesUnder at *
  rw [List.mem_eraseDups] at fresh
  rw [List.filter_append, List.map_append, List.eraseDups_append]
  simp [named, List.removeAll, fresh, List.eraseDups_cons]

/-- There are values under exactly the names that something was inserted under. Dropping
repetitions never drops the first occurrence. -/
theorem values_under_ne_nil_iff :
    valuesUnder name history asked ≠ [] ↔ asked ∈ names name history := by
  simp only [valuesUnder, names, List.mem_map, List.mem_toFinset]
  constructor
  · intro present
    obtain ⟨value, listed⟩ := List.exists_mem_of_ne_nil _ present
    obtain ⟨item, kept, -⟩ := List.mem_map.mp (List.mem_eraseDups.mp listed)
    obtain ⟨inserted, named⟩ := List.mem_filter.mp kept
    exact ⟨item, inserted, of_decide_eq_true named⟩
  · rintro ⟨item, inserted, named⟩
    have kept : item ∈ history.filter fun other => name other.1 = asked :=
      List.mem_filter.mpr ⟨inserted, decide_eq_true named⟩
    exact List.ne_nil_of_mem (List.mem_eraseDups.mpr (List.mem_map_of_mem kept))

omit [DecidableEq α] in

/-- The first key of a name is not changed by what comes later. -/
theorem first_key_snoc :
    firstKey name (history ++ [(key, value)]) asked =
      (firstKey name history asked).or (if name key = asked then some key else none) := by
  rw [firstKey, List.map_append, List.find?_append]
  by_cases named : name key = asked <;> simp [firstKey, named]

omit [DecidableEq α] in
/-- The first key stays the first. -/
theorem first_key_kept {first : κ} (found : firstKey name history asked = some first) :
    firstKey name (history ++ [(key, value)]) asked = some first := by
  rw [first_key_snoc, found, Option.some_or]

variable (name) in
/-- The groups are what the history comes to. -/
structure Collects (history : List (κ × α)) (groups : List (κ × List α)) : Prop where
  distinct : (groups.map fun group => name group.1).Nodup
  first : ∀ group ∈ groups, firstKey name history (name group.1) = some group.1
  values : ∀ group ∈ groups, group.2 = valuesUnder name history (name group.1)
  covered : ∀ item ∈ history, ∃ group ∈ groups, name group.1 = name item.1

namespace Collects

/-- Nothing collects into no groups. -/
theorem nothing : Collects name ([] : List (κ × α)) [] where
  distinct := List.nodup_nil
  first _ member := absurd member List.not_mem_nil
  values _ member := absurd member List.not_mem_nil
  covered _ member := absurd member List.not_mem_nil

variable {groups : List (κ × List α)}

/-- A value under a name that has a group: the keys stay, and each group has the values that
were inserted under its name. -/
theorem extended (collects : Collects name history groups) {later : List (κ × List α)}
    (sameKeys : later.map Prod.fst = groups.map Prod.fst)
    (values : ∀ group ∈ later, group.2 =
      valuesUnder name (history ++ [(key, value)]) (name group.1))
    (known : ∃ group ∈ groups, name group.1 = name key) :
    Collects name (history ++ [(key, value)]) later where
  distinct := by
    have sameNames := congrArg (List.map name) sameKeys
    rw [List.map_map, List.map_map] at sameNames
    exact sameNames ▸ collects.distinct
  first group member := by
    have listed : group.1 ∈ groups.map Prod.fst := sameKeys ▸ List.mem_map_of_mem member
    obtain ⟨earlier, inside, sameKey⟩ := List.mem_map.mp listed
    rw [← sameKey]
    exact first_key_kept (collects.first earlier inside)
  values := values
  covered item member := by
    obtain ⟨group, inside, named⟩ : ∃ group ∈ groups, name group.1 = name item.1 := by
      rcases List.mem_append.mp member with earlier | last
      · exact collects.covered item earlier
      · rw [List.mem_singleton.mp last]
        exact known
    have listed : group.1 ∈ later.map Prod.fst := sameKeys ▸ List.mem_map_of_mem inside
    obtain ⟨counterpart, insideToo, sameKey⟩ := List.mem_map.mp listed
    exact ⟨counterpart, insideToo, sameKey ▸ named⟩

/-- A value under a name that has a group goes into that group. The other groups have other
names, so neither their values nor their first keys change. -/
theorem replaced (collects : Collects name history groups) (value : α) (position : Nat)
    (inside : position < groups.length) (named : name groups[position].1 = name key) :
    Collects name (history ++ [(key, value)]) (groups.set position (groups[position].1,
      if value ∈ groups[position].2 then groups[position].2
      else groups[position].2 ++ [value])) := by
  have ofName := collects.values _ (List.getElem_mem inside)
  refine collects.extended ?_ (fun group member => ?_) ⟨_, List.getElem_mem inside, named⟩
  · have insideToo : position < (groups.map Prod.fst).length := by
      rw [List.length_map]
      exact inside
    have sameKey : groups[position].1 = (groups.map Prod.fst)[position] :=
      (List.getElem_map Prod.fst).symm
    rw [List.map_set, sameKey]
    exact List.set_getElem_self insideToo
  · obtain ⟨index, within, rfl⟩ := List.getElem_of_mem member
    rw [List.length_set] at within
    rw [List.getElem_set]
    split
    · split
      · rename_i listed
        rw [values_under_kept fun _ => ofName ▸ listed]
        exact ofName
      · rename_i fresh
        rw [values_under_added named.symm (ofName ▸ fresh), ← ofName]
    · rename_i other
      have otherName : name key ≠ name groups[index].1 := by
        intro same
        have apart := List.pairwise_map.mp collects.distinct
        rcases Nat.lt_or_gt_of_ne other with before | behind
        · exact List.pairwise_iff_getElem.mp apart position index inside within before
            (named.trans same)
        · exact List.pairwise_iff_getElem.mp apart index position within inside behind
            (named.trans same).symm
      rw [values_under_kept fun same => absurd same otherName]
      exact collects.values _ (List.getElem_mem within)

/-- A value under a name that has no group yet starts one. Its key is the first one of the name,
and its values are the one that was inserted. -/
theorem pushed (collects : Collects name history groups) (value : α)
    (fresh : ∀ group ∈ groups, name group.1 ≠ name key) :
    Collects name (history ++ [(key, value)]) (groups ++ [(key, [value])]) := by
  have absent : name key ∉ names name history := by
    intro present
    obtain ⟨item, member, named⟩ := List.mem_map.mp (List.mem_toFinset.mp present)
    obtain ⟨group, inside, groupNamed⟩ := collects.covered item member
    exact fresh group inside (groupNamed.trans named)
  have empty : valuesUnder name history (name key) = [] :=
    not_not.mp fun present => absent (values_under_ne_nil_iff.mp present)
  have unnamed : firstKey name history (name key) = none := by
    refine List.find?_eq_none.mpr fun other listed named => absent ?_
    obtain ⟨item, member, rfl⟩ := List.mem_map.mp listed
    exact List.mem_toFinset.mpr (List.mem_map.mpr ⟨item, member, of_decide_eq_true named⟩)
  refine ⟨?_, fun group member => ?_, fun group member => ?_, fun item member => ?_⟩
  · rw [List.map_append, List.map_singleton, ← List.concat_eq_append]
    refine List.Nodup.concat (fun listed => ?_) collects.distinct
    obtain ⟨group, inside, named⟩ := List.mem_map.mp listed
    exact fresh group inside named
  · rcases List.mem_append.mp member with earlier | last
    · exact first_key_kept (collects.first group earlier)
    · rw [List.mem_singleton.mp last, first_key_snoc, unnamed, Option.none_or, if_pos rfl]
  · rcases List.mem_append.mp member with earlier | last
    · rw [values_under_kept fun named => absurd named.symm (fresh group earlier)]
      exact collects.values group earlier
    · rw [List.mem_singleton.mp last, values_under_added rfl (empty ▸ List.not_mem_nil), empty,
        List.nil_append]
  · rcases List.mem_append.mp member with earlier | last
    · obtain ⟨group, inside, named⟩ := collects.covered item earlier
      exact ⟨group, List.mem_append_left _ inside, named⟩
    · rw [List.mem_singleton.mp last]
      exact ⟨_, List.mem_append_right _ (List.mem_singleton_self _), rfl⟩

/-- There are as many groups as names. Groups have different names, and every name has a
group. -/
theorem length_eq (collects : Collects name history groups) :
    groups.length = (names name history).card := by
  have sameNames : (groups.map fun group => name group.1).toFinset = names name history := by
    ext asked
    rw [List.mem_toFinset, List.mem_map]
    constructor
    · rintro ⟨group, member, rfl⟩
      obtain ⟨item, listed, sameKey⟩ := List.mem_map.mp
        (List.mem_of_find?_eq_some (collects.first group member))
      exact List.mem_toFinset.mpr (List.mem_map.mpr ⟨item, listed, sameKey ▸ rfl⟩)
    · intro present
      obtain ⟨item, listed, rfl⟩ := List.mem_map.mp (List.mem_toFinset.mp present)
      exact collects.covered item listed
  rw [← sameNames, List.toFinset_card_of_nodup collects.distinct, List.length_map]

/-- The group of a name has the values that were inserted under it. A name has a group exactly
when it has values, so the empty list stands for no group. -/
theorem found_iff (collects : Collects name history groups) (values : List α) :
    (∃ group ∈ groups, name group.1 = asked ∧ group.2 = values) ↔
      values ≠ [] ∧ valuesUnder name history asked = values := by
  constructor
  · rintro ⟨group, member, rfl, rfl⟩
    have present : name group.1 ∈ names name history := by
      obtain ⟨item, listed, sameKey⟩ := List.mem_map.mp
        (List.mem_of_find?_eq_some (collects.first group member))
      exact List.mem_toFinset.mpr (List.mem_map.mpr ⟨item, listed, sameKey ▸ rfl⟩)
    have listed := collects.values group member
    exact ⟨listed ▸ values_under_ne_nil_iff.mpr present, listed.symm⟩
  · rintro ⟨present, rfl⟩
    have inserted := values_under_ne_nil_iff.mp present
    obtain ⟨item, listed, rfl⟩ := List.mem_map.mp (List.mem_toFinset.mp inserted)
    obtain ⟨group, member, named⟩ := collects.covered item listed
    exact ⟨group, member, named, named ▸ collects.values group member⟩

/-- The group of a key is found by the key exactly when the key came first. A group keeps the key
that started it, however it was spelled later. -/
theorem keyed_iff (collects : Collects name history groups) (key : κ) (values : List α) :
    (∃ group ∈ groups, group.1 = key ∧ group.2 = values) ↔
      firstKey name history (name key) = some key ∧
        ∃ group ∈ groups, name group.1 = name key ∧ group.2 = values := by
  constructor
  · rintro ⟨group, member, rfl, rfl⟩
    exact ⟨collects.first group member, group, member, rfl, rfl⟩
  · rintro ⟨first, group, member, named, rfl⟩
    have firstToo := collects.first group member
    rw [named, first] at firstToo
    exact ⟨group, member, (Option.some.inj firstToo).symm, rfl⟩

end Collects

end Library.Groups
