import TrustGrant.Evaluate.SelectorContext
import TrustGrant.Library.Groups

/-!
# Selector contexts from their insertions

A context is made by inserting values one after the other. It is what its history comes to:
each kind has the values that were inserted under it, in the order in which they came first,
and keeps the spelling under which it was inserted first. A lookup by a kind finds its values
under any spelling, a lookup by a text only under the first one. The insertions succeed exactly
when they are well formed and what they come to is within the limits.

A history is a list of kinds and values, and the result is an equivalence about a history:
when its insertions succeed, and what both lookups then answer. One insertion is compared
with one more item at the end of the history.
-/

namespace TrustGrant

open Rust Limits Library

/-- What kind equality compares. -/
def SelectorKind.identity (kind : SelectorKind) : SelectorKindClassification × Option String :=
  (kind.classification, if kind.classification = .other then some kind.asStr else none)

/-- Kinds are the same exactly when their identities are, so contexts can be grouped by
identity. -/
theorem SelectorKind.same_kind_iff_identity (left right : SelectorKind) :
    left.sameKind right = true ↔ left.identity = right.identity := by
  rw [same_kind_iff, identity, identity, Prod.mk.injEq]
  refine and_congr_right fun sameClass => ?_
  rw [← sameClass]
  by_cases other : left.classification = .other <;> simp [other]

/-- What the texts of an insertion are read as. Kind and value are validated before anything is
inserted. -/
def readInsertion (texts : String × String) : Except TrustGrantError (SelectorKind × String) := do
  let kind ← SelectorKind.new texts.1
  let value ← normalizeContextValue "selector_context.value" texts.2
  return (kind, value)

namespace SelectorContext

/-- The values of the entry with this spelling. -/
def valuesForKindStr (context : SelectorContext) (kind : String) : Option (List String) :=
  (context.entries.find? fun entry => entry.kind.asStr = kind).map SelectorValues.values

/-- Insert one after the other; the first error ends it. -/
def insertAll (insertions : List (String × String)) : Except TrustGrantError SelectorContext :=
  insertions.foldlM (fun context texts => context.insert texts.1 texts.2) new

/-- The entries as groups of values under kinds. -/
def groups (context : SelectorContext) : List (SelectorKind × List String) :=
  context.entries.map fun entry => (entry.kind, entry.values)

/-- A context is what a history of insertions comes to. -/
abbrev Collects (context : SelectorContext) (history : List (SelectorKind × String)) : Prop :=
  Groups.Collects SelectorKind.identity history context.groups

end SelectorContext

/-- The kinds of a history and the values of each are within the limits of a request. Repetitions
of a value do not count. -/
structure HistoryWithinLimits (history : List (SelectorKind × String)) : Prop where
  kinds : (Groups.names SelectorKind.identity history).card ≤ maxRequestSelectorKinds
  values : ∀ asked,
    (Groups.valuesUnder SelectorKind.identity history asked).length ≤ maxRequestValuesPerKind

/-- A part of a history is within the limits when the history is. -/
theorem HistoryWithinLimits.of_snoc {history : List (SelectorKind × String)}
    {item : SelectorKind × String} (within : HistoryWithinLimits (history ++ [item])) :
    HistoryWithinLimits history where
  kinds := by
    refine (Finset.card_le_card ?_).trans within.kinds
    rw [Groups.names, Groups.names, List.map_append, List.toFinset_append]
    exact Finset.subset_union_left
  values asked := by
    refine le_trans ?_ (within.values asked)
    by_cases kept : item.1.identity = asked →
        item.2 ∈ Groups.valuesUnder SelectorKind.identity history asked
    · rw [Groups.values_under_kept kept]
    · obtain ⟨named, fresh⟩ := Classical.not_imp.mp kept
      rw [Groups.values_under_added named fresh, List.length_append]
      exact Nat.le_add_right _ _

namespace SelectorContext

variable {context extended : SelectorContext} {history : List (SelectorKind × String)}
  {kind : SelectorKind} {value : String} {normalized : IsContextValue value}

/-- What a context is made from is within the limits. The context carries its limits, and it
lists what the history comes to. -/
theorem within_of_collects (collects : context.Collects history) :
    HistoryWithinLimits history where
  kinds := by
    rw [← collects.length_eq, groups, List.length_map]
    exact context.few
  values asked := by
    by_cases present : Groups.valuesUnder SelectorKind.identity history asked = []
    · rw [present]
      exact Nat.zero_le _
    · obtain ⟨group, member, -, same⟩ := (collects.found_iff _).mpr ⟨present, rfl⟩
      obtain ⟨entry, -, rfl⟩ := List.mem_map.mp member
      rw [← same]
      exact entry.few

/-- A statement about some group is one about some entry. -/
theorem exists_group_iff (Holds : SelectorKind × List String → Prop) :
    (∃ group ∈ context.groups, Holds group) ↔
      ∃ entry ∈ context.entries, Holds (entry.kind, entry.values) := by
  simp only [groups, List.mem_map, exists_exists_and_eq_and]

/-- Replacing the values of an entry replaces the values of its group. -/
theorem groups_replace_entry (position : Nat) (inside : position < context.entries.length)
    (entry : SelectorValues) (sameKind : entry.kind = context.entries[position].kind) :
    (context.replaceEntry position inside entry sameKind).groups =
      context.groups.set position (entry.kind, entry.values) :=
  List.map_set

/-- A new entry is a new group at the end. -/
theorem groups_push_entry (entry : SelectorValues)
    (fresh : ∀ other ∈ context.entries.map SelectorValues.kind,
      other.sameKind entry.kind = false)
    (room : context.entries.length + 1 ≤ maxRequestSelectorKinds) :
    (context.pushEntry entry fresh room).groups =
      context.groups ++ [(entry.kind, entry.values)] :=
  List.map_append

/-- Adding a value adds it at the end, unless it is there. -/
theorem add_value_values (entry more : SelectorValues)
    (added : entry.addValue value normalized = .ok more) :
    more.kind = entry.kind ∧
      more.values = if value ∈ entry.values then entry.values else entry.values ++ [value] := by
  unfold SelectorValues.addValue at added
  split at added
  · rename_i listed
    cases added
    exact ⟨rfl, (if_pos listed).symm⟩
  · rename_i fresh
    split at added
    · cases added
      exact ⟨rfl, (if_neg fresh).symm⟩
    · cases added

/-- An entry of another kind has another identity. Kinds are grouped by it: a built-in kind is
identified by its classification, another one by its spelling. -/
theorem other_identity_of_absent
    (absent : (context.entries.findIdx? fun entry => entry.kind.sameKind kind) = none) :
    ∀ group ∈ context.groups, group.1.identity ≠ kind.identity := by
  intro group member named
  obtain ⟨entry, listed, rfl⟩ := List.mem_map.mp member
  have different := List.findIdx?_eq_none_iff.mp absent entry listed
  rw [(SelectorKind.same_kind_iff_identity _ _).mpr named] at different
  cases different

/-- An insertion is one more item of the history. -/
theorem insert_validated_collects (collects : context.Collects history)
    (inserted : context.insertValidated kind value normalized = .ok extended) :
    extended.Collects (history ++ [(kind, value)]) := by
  unfold insertValidated at inserted
  split at inserted
  · rename_i position found
    obtain ⟨inside, same, -⟩ := List.findIdx?_eq_some_iff_getElem.mp found
    dsimp only at inserted
    split at inserted
    · rename_i entry added
      cases inserted
      obtain ⟨sameKind, nowListed⟩ := add_value_values _ entry added
      have insideGroups : position < context.groups.length := by
        rw [groups, List.length_map]
        exact inside
      have atPosition : context.groups[position] =
          (context.entries[position].kind, context.entries[position].values) :=
        List.getElem_map _
      have named : context.groups[position].1.identity = kind.identity := by
        rw [atPosition]
        exact (SelectorKind.same_kind_iff_identity _ _).mp same
      have replaced := collects.replaced value position insideGroups named
      rw [atPosition, ← nowListed, ← sameKind] at replaced
      rw [Collects, groups_replace_entry]
      exact replaced
    · cases inserted
  · rename_i absent
    split at inserted
    · cases inserted
      rw [Collects, groups_push_entry]
      exact collects.pushed value (other_identity_of_absent absent)
    · cases inserted

/-- An insertion succeeds when the longer history is within the limits. -/
theorem insert_validated_succeeds (collects : context.Collects history)
    (normalized : IsContextValue value)
    (within : HistoryWithinLimits (history ++ [(kind, value)])) :
    ∃ extended, context.insertValidated kind value normalized = .ok extended := by
  unfold insertValidated
  split
  · rename_i position found
    obtain ⟨inside, same, -⟩ := List.findIdx?_eq_some_iff_getElem.mp found
    have named := (SelectorKind.same_kind_iff_identity _ _).mp same
    have listedValues : context.entries[position].values =
        Groups.valuesUnder SelectorKind.identity history kind.identity := by
      rw [← named]
      exact collects.values _ (List.mem_map_of_mem (List.getElem_mem inside))
    obtain ⟨entry, added⟩ : ∃ entry,
        context.entries[position].addValue value normalized = .ok entry := by
      unfold SelectorValues.addValue
      split
      · exact ⟨_, rfl⟩
      · rename_i fresh
        have room := within.values kind.identity
        rw [listedValues] at fresh
        rw [Groups.values_under_added rfl fresh, ← listedValues, List.length_append,
          List.length_singleton] at room
        rw [dif_pos room]
        exact ⟨_, rfl⟩
    dsimp only
    split
    · exact ⟨_, rfl⟩
    · rename_i problem refused
      rw [added] at refused
      cases refused
  · rename_i absent
    have room := within.kinds
    have pushed := collects.pushed value (other_identity_of_absent absent)
    rw [← pushed.length_eq, List.length_append, groups, List.length_map,
      List.length_singleton] at room
    rw [dif_pos room]
    exact ⟨_, rfl⟩

/-- An insertion of texts is that of what they are read as. -/
theorem insert_ok_iff (texts : String × String) :
    context.insert texts.1 texts.2 = .ok extended ↔
      ∃ kind value, ∃ normalized : IsContextValue value,
        readInsertion texts = .ok (kind, value) ∧
          context.insertValidated kind value normalized = .ok extended := by
  simp only [readInsertion, Results.bind_ok_iff, Results.pure_ok_iff, Prod.mk.injEq, insert]
  constructor
  · intro inserted
    split at inserted
    · cases inserted
    · rename_i kind named
      split at inserted
      · cases inserted
      · rename_i value accepted
        exact ⟨kind, value, ((normalize_context_value_ok_iff _ _ _).mp accepted).2,
          ⟨kind, named, value, accepted, rfl, rfl⟩, inserted⟩
  · rintro ⟨kind, value, normalized, ⟨_, named, _, accepted, rfl, rfl⟩, inserted⟩
    split
    · rename_i problem refused
      rw [named] at refused
      cases refused
    · rename_i kindToo namedToo
      obtain rfl := Except.ok.inj (named.symm.trans namedToo)
      split
      · rename_i problem refused
        rw [accepted] at refused
        cases refused
      · rename_i valueToo acceptedToo
        obtain rfl := Except.ok.inj (accepted.symm.trans acceptedToo)
        exact inserted

/-- What an insertion is read as is a context value. -/
theorem read_insertion_normalized (texts : String × String) (item : SelectorKind × String)
    (read : readInsertion texts = .ok item) : IsContextValue item.2 := by
  obtain ⟨kind, -, read⟩ := (Results.bind_ok_iff _ _ _).mp read
  obtain ⟨value, accepted, returned⟩ := (Results.bind_ok_iff _ _ _).mp read
  obtain rfl := (Results.pure_ok_iff _ _).mp returned
  exact ((normalize_context_value_ok_iff _ _ _).mp accepted).2

/-- One more insertion is made in the context that the earlier ones left. -/
theorem insert_all_snoc (insertions : List (String × String)) (texts : String × String) :
    insertAll (insertions ++ [texts]) =
      insertAll insertions >>= fun context => context.insert texts.1 texts.2 := by
  simp only [insertAll, List.foldlM_append, List.foldlM_cons, List.foldlM_nil, bind_pure]

/-- One more insertion is read after the earlier ones. It is the step of the induction over
insertions. -/
theorem read_all_snoc_ok_iff (insertions : List (String × String)) (texts : String × String)
    (history : List (SelectorKind × String)) :
    (insertions ++ [texts]).mapM readInsertion = .ok history ↔
      ∃ earlier item, insertions.mapM readInsertion = .ok earlier ∧
        readInsertion texts = .ok item ∧ history = earlier ++ [item] := by
  simp only [List.mapM_append, List.mapM_cons, List.mapM_nil, Results.bind_ok_iff,
    Results.pure_ok_iff, pure_bind]
  constructor
  · rintro ⟨earlier, readEarlier, last, ⟨item, read, rfl⟩, rfl⟩
    exact ⟨earlier, item, readEarlier, read, rfl⟩
  · rintro ⟨earlier, item, readEarlier, read, rfl⟩
    exact ⟨earlier, readEarlier, _, ⟨item, read, rfl⟩, rfl⟩

/-- The context that insertions make is what their history comes to. The induction is on the
insertions, from their end. -/
theorem collects_of_insert_all (insertions : List (String × String)) (context : SelectorContext)
    (made : insertAll insertions = .ok context) :
    ∃ history, insertions.mapM readInsertion = .ok history ∧ context.Collects history := by
  induction insertions using List.reverseRecOn generalizing context with
  | nil =>
    obtain rfl := (Results.pure_ok_iff _ _).mp made
    exact ⟨[], rfl, .nothing⟩
  | append_singleton insertions texts inductionHypothesis =>
    rw [insert_all_snoc, Results.bind_ok_iff] at made
    obtain ⟨before, madeBefore, inserted⟩ := made
    obtain ⟨history, readAll, collects⟩ := inductionHypothesis before madeBefore
    obtain ⟨kind, value, normalized, read, insertedToo⟩ := (insert_ok_iff texts).mp inserted
    exact ⟨_, (read_all_snoc_ok_iff _ _ _).mpr ⟨history, _, readAll, read, rfl⟩,
      insert_validated_collects collects insertedToo⟩

/-- Insertions that are read to a history within the limits succeed. -/
theorem insert_all_succeeds (insertions : List (String × String))
    (history : List (SelectorKind × String))
    (readAll : insertions.mapM readInsertion = .ok history)
    (within : HistoryWithinLimits history) :
    ∃ context, insertAll insertions = .ok context := by
  induction insertions using List.reverseRecOn generalizing history with
  | nil => exact ⟨new, rfl⟩
  | append_singleton insertions texts inductionHypothesis =>
    obtain ⟨earlier, item, readEarlier, read, rfl⟩ := (read_all_snoc_ok_iff _ _ _).mp readAll
    obtain ⟨before, madeBefore⟩ := inductionHypothesis earlier readEarlier within.of_snoc
    obtain ⟨history, readToo, collects⟩ := collects_of_insert_all insertions before madeBefore
    obtain rfl := Except.ok.inj (readEarlier.symm.trans readToo)
    obtain ⟨context, inserted⟩ := insert_validated_succeeds collects
      (read_insertion_normalized texts item read) within
    refine ⟨context, ?_⟩
    rw [insert_all_snoc, Results.bind_ok_iff]
    exact ⟨before, madeBefore, (insert_ok_iff texts).mpr ⟨item.1, item.2, _, read, inserted⟩⟩

/-- A lookup by a kind finds what was inserted under it. -/
theorem values_for_kind_of_history (collects : context.Collects history) (kind : SelectorKind)
    (values : List String) :
    context.valuesForKind kind = some values ↔
      values ≠ [] ∧
        Groups.valuesUnder SelectorKind.identity history kind.identity = values := by
  rw [values_for_kind_some_iff, ← collects.found_iff, exists_group_iff]
  simp only [SelectorKind.same_kind_iff_identity]

/-- A lookup by a text finds the entry with this spelling. -/
theorem values_for_kind_str_some_iff (context : SelectorContext) (text : String)
    (values : List String) :
    context.valuesForKindStr text = some values ↔
      ∃ entry ∈ context.entries, entry.kind.asStr = text ∧ entry.values = values := by
  rw [valuesForKindStr, Option.map_eq_some_iff]
  constructor
  · rintro ⟨entry, found, rfl⟩
    exact ⟨entry, List.mem_of_find?_eq_some found, of_decide_eq_true (List.find?_some
      (p := fun entry : SelectorValues => decide (entry.kind.asStr = text)) found), rfl⟩
  · rintro ⟨entry, listed, spelled, rfl⟩
    cases found : context.entries.find? fun entry => entry.kind.asStr = text with
    | none => exact absurd (decide_eq_true spelled) (List.find?_eq_none.mp found entry listed)
    | some first =>
      have spelledToo := of_decide_eq_true (List.find?_some
        (p := fun entry : SelectorValues => decide (entry.kind.asStr = text)) found)
      have unique := context.entry_unique first entry (List.mem_of_find?_eq_some found) listed
        (SelectorKind.same_kind_of_spelling _ _ (spelledToo.trans spelled.symm))
      exact ⟨first, rfl, by rw [unique]⟩

/-- A lookup by a text finds the values of the kind that was inserted first under this
spelling. -/
theorem values_for_kind_str_of_history (collects : context.Collects history) (text : String)
    (values : List String) :
    context.valuesForKindStr text = some values ↔
      ∃ kind : SelectorKind, kind.asStr = text ∧
        Groups.firstKey SelectorKind.identity history kind.identity = some kind ∧
        context.valuesForKind kind = some values := by
  have found (kind : SelectorKind) := collects.keyed_iff kind values
  rw [values_for_kind_str_some_iff]
  simp only [exists_group_iff] at found
  constructor
  · rintro ⟨entry, listed, rfl, rfl⟩
    obtain ⟨first, -⟩ := (found entry.kind).mp ⟨entry, listed, rfl, rfl⟩
    exact ⟨entry.kind, rfl, first, (values_for_kind_some_iff _ _ _).mpr
      ⟨entry, listed, SelectorKind.same_kind_refl _, rfl⟩⟩
  · rintro ⟨kind, rfl, first, listedValues⟩
    obtain ⟨entry, listed, same, rfl⟩ := (values_for_kind_some_iff _ _ _).mp listedValues
    obtain ⟨spelled, spelledListed, rfl, sameValues⟩ := (found kind).mpr ⟨first, entry, listed,
      (SelectorKind.same_kind_iff_identity _ _).mp same, rfl⟩
    exact ⟨spelled, spelledListed, rfl, sameValues⟩

end SelectorContext

/-- A context is determined by its insertions: they succeed exactly when each is well formed
and they come to no more kinds and no more values of a kind than the limits allow. A lookup by
a kind then finds the values that were inserted under it in any spelling, each once and in
their order. A lookup by a text finds the same values when the kind came first in this
spelling, and nothing otherwise.

Proof: by induction on the insertions, the context collects their history. A group of the context
is what was inserted under its name, so both lookups are read off the history. -/
theorem context_of_insertions (insertions : List (String × String)) :
    ((∃ context, SelectorContext.insertAll insertions = .ok context) ↔
      ∃ history, insertions.mapM readInsertion = .ok history ∧ HistoryWithinLimits history) ∧
    ∀ context, SelectorContext.insertAll insertions = .ok context →
      ∃ history, insertions.mapM readInsertion = .ok history ∧
        (∀ kind values, context.valuesForKind kind = some values ↔ values ≠ [] ∧
          Groups.valuesUnder SelectorKind.identity history kind.identity = values) ∧
        ∀ text values, context.valuesForKindStr text = some values ↔
          ∃ kind : SelectorKind, kind.asStr = text ∧
            Groups.firstKey SelectorKind.identity history kind.identity = some kind ∧
            context.valuesForKind kind = some values := by
  refine ⟨⟨?_, ?_⟩, ?_⟩
  · rintro ⟨context, made⟩
    obtain ⟨history, readAll, collects⟩ :=
      SelectorContext.collects_of_insert_all insertions context made
    exact ⟨history, readAll, SelectorContext.within_of_collects collects⟩
  · rintro ⟨history, readAll, within⟩
    exact SelectorContext.insert_all_succeeds insertions history readAll within
  · intro context made
    obtain ⟨history, readAll, collects⟩ :=
      SelectorContext.collects_of_insert_all insertions context made
    exact ⟨history, readAll, SelectorContext.values_for_kind_of_history collects,
      SelectorContext.values_for_kind_str_of_history collects⟩

end TrustGrant
