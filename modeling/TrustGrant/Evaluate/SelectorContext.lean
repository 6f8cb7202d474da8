import TrustGrant.Domain.Names
import TrustGrant.Library.Decimal
import Mathlib.Data.List.Sort
import Mathlib.Data.List.Nodup
import Mathlib.Data.Set.Basic

/-!
# Selector contexts

A context lists values under selector kinds, in the order of insertion, and keeps the
positions of the built-in kinds in a small index. The type carries what insertion
maintains: one entry per kind, values listed once, the request limits, and an index
that points at exactly the entries of built-in kinds.

What a context says, apart from that order, is a set of values for every kind. Lookup
answers with these sets; the derived equality and the text key look at the entries.
-/

namespace TrustGrant

open Rust Limits Library

/-- A trimmed, non-empty and bounded text of a request. -/
def IsContextValue (value : String) : Prop :=
  Text.isEmpty value = false ∧ Text.len value ≤ maxRequestSelectorValueBytes

/-- Trim a value, reject it when nothing remains and bound its length. -/
def normalizeContextValue (fieldName value : String) : Except TrustGrantError String := do
  let trimmed ← normalizeNonEmpty fieldName value
  ensureStringLimit fieldName trimmed maxRequestSelectorValueBytes
  return trimmed

/-- An accepted value is the trimmed input, not empty and within the limit. -/
theorem normalize_context_value_ok_iff (fieldName value trimmed : String) :
    normalizeContextValue fieldName value = .ok trimmed ↔
      trimmed = Text.trim value ∧ IsContextValue trimmed := by
  simp only [normalizeContextValue, Results.bind_ok_iff, normalize_non_empty_ok_iff,
    ensure_string_limit_ok_iff, Results.pure_ok_iff, exists_const, IsContextValue]
  constructor
  · rintro ⟨text, ⟨isTrimmed, present⟩, within, rfl⟩
    exact ⟨isTrimmed, present, within⟩
  · rintro ⟨isTrimmed, present, within⟩
    exact ⟨trimmed, ⟨isTrimmed, present⟩, within, rfl⟩

/-- The values listed under one kind. There is at least one, no two are equal, and each is a
trimmed text within its limit. -/
structure SelectorValues where
  kind : SelectorKind
  values : List String
  present : values ≠ []
  distinct : values.Nodup
  few : values.length ≤ maxRequestValuesPerKind
  normalized : ∀ value ∈ values, IsContextValue value

namespace SelectorValues

/-- Derived equality: the same kind, and the same values in the same order. -/
instance : BEq SelectorValues :=
  ⟨fun left right => left.kind == right.kind && left.values == right.values⟩

/-- A first value under a kind. -/
def single (kind : SelectorKind) (value : String) (normalized : IsContextValue value) :
    SelectorValues where
  kind := kind
  values := [value]
  present := List.cons_ne_nil _ _
  distinct := List.nodup_singleton value
  few := Nat.le_of_ble_eq_true rfl
  normalized := by
    intro listed member
    rw [List.mem_singleton.mp member]
    exact normalized

/-- List one more value, unless it is listed already. The limit on the number of values is
checked for a value that is new only. -/
def addValue (entry : SelectorValues) (value : String) (normalized : IsContextValue value) :
    Except TrustGrantError SelectorValues :=
  if listed : value ∈ entry.values then .ok entry
  else if room : entry.values.length + 1 ≤ maxRequestValuesPerKind then
    .ok {
      kind := entry.kind
      values := entry.values ++ [value]
      present := List.append_ne_nil_of_left_ne_nil entry.present _
      distinct := List.nodup_append_comm.mp (List.nodup_cons.mpr ⟨listed, entry.distinct⟩)
      few := by
        rw [List.length_append, List.length_singleton]
        exact room
      normalized := by
        intro other member
        rcases List.mem_append.mp member with earlier | added
        · exact entry.normalized other earlier
        · rw [List.mem_singleton.mp added]
          exact normalized }
  else .error (.collectionTooLarge "request.selector_values" maxRequestValuesPerKind)

/-- Adding a value keeps the kind and lists exactly that value more. A value that is there
already is not added again, which changes no membership. -/
theorem add_value_exact (entry : SelectorValues) (value : String)
    (normalized : IsContextValue value) (extended : SelectorValues)
    (added : entry.addValue value normalized = .ok extended) :
    extended.kind = entry.kind ∧
      ∀ other, other ∈ extended.values ↔ other ∈ entry.values ∨ other = value := by
  unfold addValue at added
  split at added
  · rename_i listed
    cases added
    refine ⟨rfl, fun other => ⟨.inl, ?_⟩⟩
    rintro (member | rfl)
    · exact member
    · exact listed
  · split at added
    · cases added
      refine ⟨rfl, fun other => ?_⟩
      rw [List.mem_append, List.mem_singleton]
    · cases added

end SelectorValues

/-- Selector values by kind, with the positions of the built-in kinds. The fields after the first
two say what insertion maintains, so a context that breaks it cannot be built. -/
structure SelectorContext where
  entries : List SelectorValues
  kindIndex : List (Option Nat)
  distinctKinds : (entries.map SelectorValues.kind).Pairwise
    fun left right => left.sameKind right = false
  few : entries.length ≤ maxRequestSelectorKinds
  slots : kindIndex.length = 4
  indexed : ∀ slot position, kindIndex[slot]? = some (some position) ↔
    ∃ kind : SelectorKind, (entries.map SelectorValues.kind)[position]? = some kind ∧
      kind.kindIndex = some slot

namespace SelectorContext

/-- Derived equality: the entries in order, and the index. -/
def sameEntries (left right : SelectorContext) : Bool :=
  left.entries == right.entries && left.kindIndex == right.kindIndex

/-- Contexts are compared entry by entry, in the order of their insertion. -/
instance : BEq SelectorContext := ⟨sameEntries⟩

/-- The empty context. -/
def new : SelectorContext where
  entries := []
  kindIndex := List.replicate 4 none
  distinctKinds := List.Pairwise.nil
  few := by decide
  slots := rfl
  indexed := by
    intro slot position
    constructor
    · intro found
      rw [List.getElem?_replicate] at found
      split at found <;> cases found
    · rintro ⟨kind, found, -⟩
      cases found

/-- Whether a context lists nothing. -/
def isEmpty (context : SelectorContext) : Bool := context.entries.isEmpty

/-- An index slot of a kind lies inside the index. -/
theorem kind_index_small (kind : SelectorKind) (slot : Nat)
    (located : kind.kindIndex = some slot) : slot < 4 := by
  unfold SelectorKind.kindIndex at located
  split at located <;> simp only [Option.some.injEq, reduceCtorEq] at located <;> omega

/-- Replace one entry by another of its kind. The positions and the kinds stay, so the index
stays exact. -/
def replaceEntry (context : SelectorContext) (position : Nat)
    (inside : position < context.entries.length) (entry : SelectorValues)
    (sameKind : entry.kind = context.entries[position].kind) : SelectorContext :=
  have kinds : (context.entries.set position entry).map SelectorValues.kind =
      context.entries.map SelectorValues.kind := by
    have kept : position < (context.entries.map SelectorValues.kind).length := by
      rw [List.length_map]
      exact inside
    rw [List.map_set, sameKind, ← List.getElem_map SelectorValues.kind (h := kept)]
    exact List.set_getElem_self kept
  { entries := context.entries.set position entry
    kindIndex := context.kindIndex
    distinctKinds := kinds ▸ context.distinctKinds
    few := by
      rw [List.length_set]
      exact context.few
    slots := context.slots
    indexed := kinds ▸ context.indexed }

/-- The index after an entry was pushed: the slot of a built-in kind points at it. -/
def pushedIndex (context : SelectorContext) (kind : SelectorKind) : List (Option Nat) :=
  match kind.kindIndex with
  | some slot => context.kindIndex.set slot (some context.entries.length)
  | none => context.kindIndex

/-- What a list holds after a push: what it held before, or the pushed value at the end. Stated
by position, because the index of the context speaks of positions. -/
theorem pushed_at_iff {α : Type} (values : List α) (pushed value : α) (position : Nat) :
    (values ++ [pushed])[position]? = some value ↔
      values[position]? = some value ∨ (position = values.length ∧ value = pushed) := by
  rw [List.getElem?_append]
  split
  · rename_i inside
    constructor
    · exact .inl
    · rintro (found | ⟨rfl, -⟩)
      · exact found
      · omega
  · rename_i outside
    have absent : values[position]? = none := by
      rw [List.getElem?_eq_none_iff]
      omega
    rw [absent, List.getElem?_singleton]
    constructor
    · intro found
      split at found
      · cases found
        exact .inr ⟨by omega, rfl⟩
      · cases found
    · rintro (impossible | ⟨rfl, rfl⟩)
      · cases impossible
      · simp

/-- The index stays exact when an entry of a new kind is pushed. The slot of the new kind was
free, since the kind is new, and the other slots point where they did. -/
theorem pushed_index_exact (context : SelectorContext) (kind : SelectorKind)
    (fresh : ∀ other ∈ context.entries.map SelectorValues.kind, other.sameKind kind = false)
    (slot position : Nat) :
    (context.pushedIndex kind)[slot]? = some (some position) ↔
      ∃ other, (context.entries.map SelectorValues.kind ++ [kind])[position]? = some other ∧
        other.kindIndex = some slot := by
  simp only [pushed_at_iff, List.length_map]
  unfold pushedIndex
  cases located : kind.kindIndex with
  | none =>
    rw [context.indexed slot position]
    constructor
    · rintro ⟨other, found, at_slot⟩
      exact ⟨other, .inl found, at_slot⟩
    · rintro ⟨other, found | ⟨-, rfl⟩, at_slot⟩
      · exact ⟨other, found, at_slot⟩
      · rw [located] at at_slot
        cases at_slot
  | some kindSlot =>
    have inside : kindSlot < context.kindIndex.length := by
      rw [context.slots]
      exact kind_index_small kind kindSlot located
    by_cases sameSlot : kindSlot = slot
    · subst sameSlot
      simp only [List.getElem?_set_self inside, Option.some.injEq]
      constructor
      · rintro rfl
        exact ⟨kind, .inr ⟨rfl, rfl⟩, located⟩
      · rintro ⟨other, found | ⟨rfl, -⟩, at_slot⟩
        · have different := fresh other (List.mem_of_getElem? found)
          rw [SelectorKind.same_kind_of_index other kind kindSlot at_slot located] at different
          cases different
        · rfl
    · simp only [List.getElem?_set_ne sameSlot, context.indexed slot position]
      constructor
      · rintro ⟨other, found, at_slot⟩
        exact ⟨other, .inl found, at_slot⟩
      · rintro ⟨other, found | ⟨-, rfl⟩, at_slot⟩
        · exact ⟨other, found, at_slot⟩
        · rw [located, Option.some.injEq] at at_slot
          exact absurd at_slot sameSlot

/-- Push an entry of a new kind. Its position is noted in the index when the kind is a built-in
one. -/
def pushEntry (context : SelectorContext) (entry : SelectorValues)
    (fresh : ∀ other ∈ context.entries.map SelectorValues.kind,
      other.sameKind entry.kind = false)
    (room : context.entries.length + 1 ≤ maxRequestSelectorKinds) : SelectorContext where
  entries := context.entries ++ [entry]
  kindIndex := context.pushedIndex entry.kind
  distinctKinds := by
    rw [List.map_append, List.pairwise_append]
    refine ⟨context.distinctKinds, List.pairwise_singleton _ _, ?_⟩
    intro other member last isLast
    rw [List.map_singleton, List.mem_singleton] at isLast
    rw [isLast]
    exact fresh other member
  few := by
    rw [List.length_append]
    exact room
  slots := by
    unfold pushedIndex
    split
    · rw [List.length_set]
      exact context.slots
    · exact context.slots
  indexed := by
    rw [List.map_append]
    exact context.pushed_index_exact entry.kind fresh

/-- `insert` once kind and value are validated: add to the entry of the kind, or push a
new entry. -/
def insertValidated (context : SelectorContext) (kind : SelectorKind) (value : String)
    (normalized : IsContextValue value) : Except TrustGrantError SelectorContext :=
  match found : context.entries.findIdx? fun entry => entry.kind.sameKind kind with
  | some position =>
    have inside : position < context.entries.length :=
      (List.findIdx?_eq_some_iff_getElem.mp found).1
    match added : context.entries[position].addValue value normalized with
    | .ok entry =>
      .ok (context.replaceEntry position inside entry
        (SelectorValues.add_value_exact _ value normalized entry added).1)
    | .error problem => .error problem
  | none =>
    if room : context.entries.length + 1 ≤ maxRequestSelectorKinds then
      .ok (context.pushEntry (.single kind value normalized) (by
        intro other member
        obtain ⟨entry, listed, rfl⟩ := List.mem_map.mp member
        exact List.findIdx?_eq_none_iff.mp found entry listed) room)
    else .error (.collectionTooLarge "request.selector_kinds" maxRequestSelectorKinds)

/-- Adds one selector value under a selector kind. The kind and the value are validated before
anything is changed. -/
def insert (context : SelectorContext) (kind value : String) :
    Except TrustGrantError SelectorContext :=
  match SelectorKind.new kind with
  | .error problem => .error problem
  | .ok kind =>
    match accepted : normalizeContextValue "selector_context.value" value with
    | .error problem => .error problem
    | .ok value =>
      context.insertValidated kind value
        ((normalize_context_value_ok_iff _ _ _).mp accepted).2

/-- The values of a kind: through the index for a built-in kind, else by a scan. Both paths find
the same entry, as the type makes sure. -/
def valuesForKind (context : SelectorContext) (kind : SelectorKind) : Option (List String) :=
  let indexedEntry := kind.kindIndex.bind fun slot =>
    (context.kindIndex[slot]?).join.bind fun position => context.entries[position]?
  match indexedEntry with
  | some entry => some entry.values
  | none => (context.entries.find? fun entry => entry.kind.sameKind kind).map
      SelectorValues.values

/-- The values a context gives a kind, whatever the order and spelling they came in. -/
def valueSet (context : SelectorContext) (kind : SelectorKind) : Set String :=
  { value | ∃ entry ∈ context.entries, entry.kind.sameKind kind = true ∧ value ∈ entry.values }

/-- Two contexts give every kind the same values. -/
def SameSelectors (left right : SelectorContext) : Prop :=
  ∀ kind, left.valueSet kind = right.valueSet kind

/-- Two entries of one kind are the same entry. The kinds of the entries differ pairwise, so the
positions of the two cannot be different. -/
theorem entry_unique (context : SelectorContext) (first second : SelectorValues)
    (firstListed : first ∈ context.entries) (secondListed : second ∈ context.entries)
    (same : first.kind.sameKind second.kind = true) : first = second := by
  have distinct := List.pairwise_iff_getElem.mp (List.pairwise_map.mp context.distinctKinds)
  obtain ⟨i, iInside, rfl⟩ := List.getElem_of_mem firstListed
  obtain ⟨j, jInside, rfl⟩ := List.getElem_of_mem secondListed
  rcases Nat.lt_trichotomy i j with before | rfl | behind
  · rw [distinct i j iInside jInside before] at same
    cases same
  · rfl
  · have turned := SelectorKind.same_kind_symm _ _ same
    rw [distinct j i jInside iInside behind] at turned
    cases turned

/-- A scan finds the entry of the kind. It finds the first one, and there is no second. -/
theorem scan_some_iff (context : SelectorContext) (kind : SelectorKind) (values : List String) :
    (context.entries.find? fun entry => entry.kind.sameKind kind).map SelectorValues.values =
        some values ↔
      ∃ entry ∈ context.entries, entry.kind.sameKind kind = true ∧ entry.values = values := by
  rw [Option.map_eq_some_iff]
  constructor
  · rintro ⟨entry, found, rfl⟩
    exact ⟨entry, List.mem_of_find?_eq_some found,
      List.find?_some (p := fun entry : SelectorValues => entry.kind.sameKind kind) found, rfl⟩
  · rintro ⟨entry, listed, same, rfl⟩
    cases found : context.entries.find? fun entry => entry.kind.sameKind kind with
    | none => exact absurd same (List.find?_eq_none.mp found entry listed)
    | some first =>
      have sameFirst :=
        List.find?_some (p := fun entry : SelectorValues => entry.kind.sameKind kind) found
      have unique := context.entry_unique first entry (List.mem_of_find?_eq_some found) listed
        (SelectorKind.same_kind_trans _ _ _ sameFirst (SelectorKind.same_kind_symm _ _ same))
      exact ⟨first, rfl, by rw [unique]⟩

/-- Lookup finds the entry of the kind, on either path. The index is exact for the kinds it
knows, and the other kinds are found by the scan. -/
theorem values_for_kind_some_iff (context : SelectorContext) (kind : SelectorKind)
    (values : List String) :
    context.valuesForKind kind = some values ↔
      ∃ entry ∈ context.entries, entry.kind.sameKind kind = true ∧ entry.values = values := by
  unfold valuesForKind
  cases located : kind.kindIndex.bind fun slot =>
      (context.kindIndex[slot]?).join.bind fun position => context.entries[position]? with
  | none => exact context.scan_some_iff kind values
  | some entry =>
    obtain ⟨slot, atSlot, found⟩ := Option.bind_eq_some_iff.mp located
    obtain ⟨position, atPosition, atEntry⟩ := Option.bind_eq_some_iff.mp found
    obtain ⟨entryKind, atKind, sameSlot⟩ :=
      (context.indexed slot position).mp (Option.join_eq_some_iff.mp atPosition)
    rw [List.getElem?_map, atEntry, Option.map_some, Option.some.injEq] at atKind
    subst atKind
    have same := SelectorKind.same_kind_of_index entry.kind kind slot sameSlot atSlot
    have listed := List.mem_of_getElem? atEntry
    simp only [Option.some.injEq]
    constructor
    · rintro rfl
      exact ⟨entry, listed, same, rfl⟩
    · rintro ⟨other, otherListed, otherSame, rfl⟩
      rw [context.entry_unique entry other listed otherListed
        (SelectorKind.same_kind_trans _ _ _ same (SelectorKind.same_kind_symm _ _ otherSame))]

/-- A value is in the set of a kind exactly when lookup lists it. The sets are what later results
speak of, and lookup is what the engine does. -/
theorem mem_value_set_iff (context : SelectorContext) (kind : SelectorKind) (value : String) :
    value ∈ context.valueSet kind ↔
      ∃ values, context.valuesForKind kind = some values ∧ value ∈ values := by
  simp only [valueSet, Set.mem_ofPred_eq, values_for_kind_some_iff]
  constructor
  · rintro ⟨entry, listed, same, member⟩
    exact ⟨entry.values, ⟨entry, listed, same, rfl⟩, member⟩
  · rintro ⟨values, ⟨entry, listed, same, rfl⟩, member⟩
    exact ⟨entry, listed, same, member⟩

/-- Kinds that are the same have the same values. So the sets do not depend on how a built-in
kind is spelled. -/
theorem value_set_same_kind (context : SelectorContext) (left right : SelectorKind)
    (same : left.sameKind right = true) : context.valueSet left = context.valueSet right := by
  ext value
  constructor
  · rintro ⟨entry, listed, sameEntry, member⟩
    exact ⟨entry, listed, SelectorKind.same_kind_trans _ _ _ sameEntry same, member⟩
  · rintro ⟨entry, listed, sameEntry, member⟩
    exact ⟨entry, listed, SelectorKind.same_kind_trans _ _ _ sameEntry
      (SelectorKind.same_kind_symm _ _ same), member⟩

/-- Whether every listed value of one context is listed by another under the same kind. It is
decided entry by entry. -/
def listsAll (context other : SelectorContext) : Bool :=
  context.entries.all fun entry => entry.values.all fun value =>
    other.entries.any fun counterpart =>
      counterpart.kind.sameKind entry.kind && decide (value ∈ counterpart.values)

/-- The listed values are the values of all kinds. The comparison is one inclusion of sets for
each kind, decided on the entries. -/
theorem lists_all_iff (context other : SelectorContext) :
    context.listsAll other = true ↔ ∀ kind, context.valueSet kind ⊆ other.valueSet kind := by
  simp only [listsAll, List.all_eq_true, List.any_eq_true, Bool.and_eq_true, decide_eq_true_eq]
  constructor
  · rintro listed kind value ⟨entry, inContext, same, member⟩
    obtain ⟨counterpart, inOther, sameEntry, otherMember⟩ := listed entry inContext value member
    exact ⟨counterpart, inOther, SelectorKind.same_kind_trans _ _ _ sameEntry same, otherMember⟩
  · intro within entry inContext value member
    exact within entry.kind ⟨entry, inContext, SelectorKind.same_kind_refl _, member⟩

/-- Two contexts denote the same selectors when each lists the values of the other. -/
instance (left right : SelectorContext) : Decidable (SameSelectors left right) :=
  decidable_of_iff (left.listsAll right = true ∧ right.listsAll left = true) <| by
    simp only [lists_all_iff, SameSelectors]
    exact ⟨fun both kind => Set.Subset.antisymm (both.1 kind) (both.2 kind),
      fun same => ⟨fun kind => (same kind).subset, fun kind => (same kind).superset⟩⟩

/-- Insertion adds the value to the kind and changes nothing else. The two cases are an entry of
the kind, which is replaced by a longer one, and no such entry, when one is pushed. -/
theorem insert_validated_value_set (context : SelectorContext) (kind : SelectorKind)
    (value : String) (normalized : IsContextValue value) (extended : SelectorContext)
    (inserted : context.insertValidated kind value normalized = .ok extended)
    (asked : SelectorKind) (other : String) :
    other ∈ extended.valueSet asked ↔
      other ∈ context.valueSet asked ∨ (kind.sameKind asked = true ∧ other = value) := by
  unfold insertValidated at inserted
  split at inserted
  · rename_i position found
    obtain ⟨inside, sameEntry, -⟩ := List.findIdx?_eq_some_iff_getElem.mp found
    dsimp only at inserted
    split at inserted
    · rename_i entry added
      cases inserted
      obtain ⟨sameKind, listedValues⟩ :=
        SelectorValues.add_value_exact _ value normalized entry added
      have newListed : entry ∈ context.entries.set position entry :=
        List.mem_set inside entry
      constructor
      · rintro ⟨candidate, listed, same, member⟩
        rcases List.mem_or_eq_of_mem_set listed with kept | rfl
        · exact .inl ⟨candidate, kept, same, member⟩
        · rw [sameKind] at same
          rcases (listedValues other).mp member with earlier | rfl
          · exact .inl ⟨_, List.getElem_mem inside, same, earlier⟩
          · exact .inr ⟨SelectorKind.same_kind_trans _ _ _
              (SelectorKind.same_kind_symm _ _ sameEntry) same, rfl⟩
      · rintro (⟨candidate, listed, same, member⟩ | ⟨same, rfl⟩)
        · obtain ⟨i, iInside, rfl⟩ := List.getElem_of_mem listed
          by_cases replaced : position = i
          · subst replaced
            exact ⟨entry, newListed, sameKind ▸ same, (listedValues other).mpr (.inl member)⟩
          · refine ⟨context.entries[i], ?_, same, member⟩
            apply List.mem_of_getElem? (i := i)
            change (context.entries.set position entry)[i]? = _
            rw [List.getElem?_set_ne replaced, List.getElem?_eq_getElem iInside]
        · exact ⟨entry, newListed, sameKind ▸ SelectorKind.same_kind_trans _ _ _ sameEntry same,
            (listedValues other).mpr (.inr rfl)⟩
    · cases inserted
  · split at inserted
    · cases inserted
      simp only [valueSet, pushEntry, SelectorValues.single, Set.mem_ofPred_eq, List.mem_append,
        List.mem_singleton]
      constructor
      · rintro ⟨entry, earlier | rfl, same, member⟩
        · exact .inl ⟨entry, earlier, same, member⟩
        · exact .inr ⟨same, List.mem_singleton.mp member⟩
      · rintro (⟨entry, earlier, same, member⟩ | ⟨same, rfl⟩)
        · exact ⟨entry, .inl earlier, same, member⟩
        · exact ⟨_, .inr rfl, same, List.mem_singleton.mpr rfl⟩
    · cases inserted

/-- Insertion by text adds the trimmed value under the named kind. The name is read as a kind
first, and two spellings of a built-in kind are read as the same one. -/
theorem insert_value_set (context : SelectorContext) (kindName value : String)
    (extended : SelectorContext) (inserted : context.insert kindName value = .ok extended) :
    ∃ kind, SelectorKind.new kindName = .ok kind ∧ IsContextValue (Text.trim value) ∧
      ∀ asked other, other ∈ extended.valueSet asked ↔
        other ∈ context.valueSet asked ∨
          (kind.sameKind asked = true ∧ other = Text.trim value) := by
  unfold insert at inserted
  split at inserted
  · cases inserted
  · rename_i kind named
    split at inserted
    · cases inserted
    · rename_i trimmed accepted
      obtain ⟨isTrimmed, normalized⟩ := (normalize_context_value_ok_iff _ _ _).mp accepted
      subst isTrimmed
      exact ⟨kind, named, normalized, fun asked other =>
        insert_validated_value_set context kind _ normalized extended inserted asked other⟩

/-- Values that are listed are within the request limits. -/
theorem value_normalized (context : SelectorContext) (kind : SelectorKind) (value : String)
    (member : value ∈ context.valueSet kind) : IsContextValue value := by
  obtain ⟨entry, -, -, listed⟩ := member
  exact entry.normalized value listed

/-- Derived equality compares entry by entry. Equal contexts thus have their kinds and values in
the same order, which is more than listing the same. -/
theorem same_entries_iff (left right : SelectorContext) :
    (left == right) = true ↔ left.kindIndex = right.kindIndex ∧
      List.Forall₂ (fun leftEntry rightEntry => leftEntry.kind.sameKind rightEntry.kind = true ∧
        leftEntry.values = rightEntry.values) left.entries right.entries := by
  have entrywise : ∀ lefts rights : List SelectorValues, (lefts == rights) = true ↔
      List.Forall₂ (fun leftEntry rightEntry =>
        leftEntry.kind.sameKind rightEntry.kind = true ∧
          leftEntry.values = rightEntry.values) lefts rights := by
    intro lefts
    induction lefts with
    | nil =>
      intro rights
      cases rights <;> simp
    | cons first rest inductionHypothesis =>
      intro rights
      cases rights with
      | nil => simp
      | cons other others =>
        have firstSame : (first == other) = true ↔
            first.kind.sameKind other.kind = true ∧ first.values = other.values := by
          change (first.kind.sameKind other.kind && first.values == other.values) = true ↔ _
          rw [Bool.and_eq_true, beq_iff_eq]
        rw [List.cons_beq_cons, Bool.and_eq_true, firstSame, inductionHypothesis,
          List.forall₂_cons]
  change (left.entries == right.entries && left.kindIndex == right.kindIndex) = true ↔ _
  rw [Bool.and_eq_true, entrywise, beq_iff_eq]
  exact And.comm

/-- Contexts that are equal entry by entry denote the same selectors. The converse fails, as the
order of insertions shows. -/
theorem same_selectors_of_same_entries (left right : SelectorContext)
    (same : (left == right) = true) : SameSelectors left right := by
  obtain ⟨-, entrywise⟩ := (same_entries_iff left right).mp same
  intro kind
  ext value
  constructor
  · rintro ⟨entry, listed, sameKind, member⟩
    obtain ⟨position, inside, rfl⟩ := List.getElem_of_mem listed
    obtain ⟨sameLength, related⟩ := List.forall₂_iff_get.mp entrywise
    obtain ⟨kinds, values⟩ := related position inside (sameLength ▸ inside)
    exact ⟨_, List.get_mem _ _, SelectorKind.same_kind_trans _ _ _
      (SelectorKind.same_kind_symm _ _ kinds) sameKind, values ▸ member⟩
  · rintro ⟨entry, listed, sameKind, member⟩
    obtain ⟨position, inside, rfl⟩ := List.getElem_of_mem listed
    obtain ⟨sameLength, related⟩ := List.forall₂_iff_get.mp entrywise
    obtain ⟨kinds, values⟩ := related position (sameLength ▸ inside) inside
    exact ⟨_, List.get_mem _ _, SelectorKind.same_kind_trans _ _ _ kinds sameKind,
      values ▸ member⟩

end SelectorContext

end TrustGrant
