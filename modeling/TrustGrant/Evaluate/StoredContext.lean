import TrustGrant.Evaluate.Insertions
import TrustGrant.Library.InPlace
import TrustGrant.Library.Runs

/-!
# Selector contexts as they are stored

The context of the source is a vector of entries beside a small array of positions, changed
in place by one call after another. Nothing in it says that the two fit together. Here it is
translated as it stands, with the context every call leaves behind, failed calls included.

A stored context that insertion has produced is one of the carried type, which keeps the
invariant in its fields: a call on the one is a call on the other. What the carried type
maintains therefore holds of the stored context after any sequence of calls.

The results are about every list of calls, failing ones included: what the context lists
afterwards, that its index and its entries fit together, and when a further call succeeds.
They are read off the carried type, to which each call is related by one lemma.
-/

namespace TrustGrant

open Rust Limits Library

/-- The values listed under one kind, as they are stored. -/
structure StoredValues where
  kind : SelectorKind
  values : List String

/-- The entries and the positions of the built-in kinds, as they are stored. Nothing says that
the positions are those of the entries. -/
structure StoredContext where
  entries : List StoredValues
  kindIndex : List (Option Nat)

namespace StoredContext

/-- A call on a stored context. -/
abbrev Call := InPlace.Call StoredContext TrustGrantError

/-- `SelectorContext::new`: no entries, and four empty slots for the built-in kinds. -/
def new : StoredContext := ⟨[], List.replicate 4 none⟩

/-- The first entry of a kind, with its position. -/
def find (context : StoredContext) (kind : SelectorKind) : Option (Nat × StoredValues) :=
  (context.entries.findIdx? fun entry => entry.kind.sameKind kind).bind fun position =>
    (context.entries[position]?).map fun entry => (position, entry)

/-- List one more value in an entry, unless it is listed already. -/
def addValue (context : StoredContext) (position : Nat) (entry : StoredValues) (value : String) :
    Call :=
  if value ∈ entry.values then (context, .ok ())
  else
    InPlace.orReturn context
      (ensureCollectionLimit "request.selector_values" (entry.values.length + 1)
        maxRequestValuesPerKind) fun _ =>
    let extended := { entry with values := entry.values ++ [value] }
    ({ context with entries := context.entries.set position extended }, .ok ())

/-- Push an entry of a new kind, then note its position when the kind is a built-in one. -/
def pushEntry (context : StoredContext) (kind : SelectorKind) (value : String) : Call :=
  InPlace.orReturn context
    (ensureCollectionLimit "request.selector_kinds" (context.entries.length + 1)
      maxRequestSelectorKinds) fun _ =>
  let pushed := { context with entries := context.entries ++ [⟨kind, [value]⟩] }
  match kind.kindIndex with
  | some slot =>
    let last := some (pushed.entries.length - 1)
    ({ pushed with kindIndex := pushed.kindIndex.set slot last }, .ok ())
  | none => (pushed, .ok ())

/-- `insert` once kind and value are validated. -/
def insertNormalized (context : StoredContext) (kind : SelectorKind) (value : String) : Call :=
  match context.find kind with
  | some (position, entry) => context.addValue position entry value
  | none => context.pushEntry kind value

/-- Adds one selector value under a selector kind. An early return leaves the context as it is at
that point. -/
def insert (context : StoredContext) (kind value : String) : Call :=
  InPlace.orReturn context (SelectorKind.new kind) fun kind =>
  InPlace.orReturn context (normalizeContextValue "selector_context.value" value) fun value =>
  context.insertNormalized kind value

/-- A linear search for the values of a kind. -/
def scan (context : StoredContext) (kind : SelectorKind) : Option (List String) :=
  (context.entries.find? fun entry => entry.kind.sameKind kind).map StoredValues.values

/-- The values of a kind: through the index for a built-in kind, else by a scan. -/
def valuesForKind (context : StoredContext) (kind : SelectorKind) : Option (List String) :=
  let indexedEntry := kind.kindIndex.bind fun slot =>
    (context.kindIndex[slot]?).join.bind fun position => context.entries[position]?
  match indexedEntry with
  | some entry => some entry.values
  | none => context.scan kind

/-- What insertion maintains. Nothing in the stored form enforces it, so it is a predicate here
and a theorem for what calls lead to. -/
structure Exact (context : StoredContext) : Prop where
  distinctKinds : context.entries.Pairwise fun left right => left.kind.sameKind right.kind = false
  present : ∀ entry ∈ context.entries, entry.values ≠ []
  distinct : ∀ entry ∈ context.entries, entry.values.Nodup
  fewKinds : context.entries.length ≤ maxRequestSelectorKinds
  fewValues : ∀ entry ∈ context.entries, entry.values.length ≤ maxRequestValuesPerKind
  slots : context.kindIndex.length = 4
  indexed : ∀ slot position, context.kindIndex[slot]? = some (some position) ↔
    ∃ entry : StoredValues, context.entries[position]? = some entry ∧
      entry.kind.kindIndex = some slot

end StoredContext

/-- An entry without what its type carries. -/
def SelectorValues.stored (entry : SelectorValues) : StoredValues := ⟨entry.kind, entry.values⟩

namespace SelectorContext

/-- A context without what its type carries. -/
def stored (context : SelectorContext) : StoredContext :=
  ⟨context.entries.map SelectorValues.stored, context.kindIndex⟩

/-- What the type carries is what insertion maintains. -/
theorem stored_exact (context : SelectorContext) : context.stored.Exact where
  distinctKinds := by
    have distinct := List.pairwise_map.mp context.distinctKinds
    exact List.pairwise_map.mpr distinct
  present := List.forall_mem_map.mpr fun entry _ => entry.present
  distinct := List.forall_mem_map.mpr fun entry _ => entry.distinct
  fewKinds := by
    rw [stored, List.length_map]
    exact context.few
  fewValues := List.forall_mem_map.mpr fun entry _ => entry.few
  slots := context.slots
  indexed := by
    intro slot position
    rw [stored, context.indexed slot position]
    simp only [List.getElem?_map, Option.map_eq_some_iff]
    constructor
    · rintro ⟨kind, ⟨entry, found, rfl⟩, atSlot⟩
      exact ⟨entry.stored, ⟨entry, found, rfl⟩, atSlot⟩
    · rintro ⟨other, ⟨entry, found, rfl⟩, atSlot⟩
      exact ⟨entry.kind, ⟨entry, found, rfl⟩, atSlot⟩

/-- The search for an entry finds the stored form of what it found before. The stored entries
have the same kinds in the same order. -/
theorem stored_find_some (context : SelectorContext) (kind : SelectorKind) (position : Nat)
    (inside : position < context.entries.length)
    (found : context.entries.findIdx? (fun entry => entry.kind.sameKind kind) = some position) :
    context.stored.find kind = some (position, context.entries[position].stored) := by
  have foundStored : context.stored.entries.findIdx? (fun entry => entry.kind.sameKind kind) =
      some position := by
    rw [stored, List.findIdx?_map]
    exact found
  rw [StoredContext.find, foundStored, Option.bind_some, stored, List.getElem?_map,
    List.getElem?_eq_getElem inside]
  rfl

/-- A kind that no entry has is not found in the storage either. -/
theorem stored_find_none (context : SelectorContext) (kind : SelectorKind)
    (absent : context.entries.findIdx? (fun entry => entry.kind.sameKind kind) = none) :
    context.stored.find kind = none := by
  have absentStored : context.stored.entries.findIdx? (fun entry => entry.kind.sameKind kind) =
      none := by
    rw [stored, List.findIdx?_map]
    exact absent
  rw [StoredContext.find, absentStored, Option.bind_none]

/-- A scan of the stored context is a scan of its entries. -/
theorem stored_scan (context : SelectorContext) (kind : SelectorKind) :
    context.stored.scan kind =
      (context.entries.find? fun entry => entry.kind.sameKind kind).map SelectorValues.values := by
  rw [StoredContext.scan, stored, List.find?_map, Option.map_map]
  rfl

/-- Both forms of a context answer with the same values. Lookup goes through the index when the
kind has a slot in use, and through the entries otherwise, in both forms. -/
theorem stored_values_for_kind (context : SelectorContext) (kind : SelectorKind) :
    context.stored.valuesForKind kind = context.valuesForKind kind := by
  have located : (kind.kindIndex.bind fun slot => (context.stored.kindIndex[slot]?).join.bind
      fun position => context.stored.entries[position]?) =
        (kind.kindIndex.bind fun slot => (context.kindIndex[slot]?).join.bind
          fun position => context.entries[position]?).map SelectorValues.stored := by
    simp only [stored, List.getElem?_map, Option.map_bind, Function.comp_def]
  rw [StoredContext.valuesForKind, located, valuesForKind, stored_scan]
  cases (kind.kindIndex.bind fun slot => (context.kindIndex[slot]?).join.bind
    fun position => context.entries[position]?) with
  | none => rfl
  | some entry => rfl

/-- In a carried context the index leads where a scan does. -/
theorem values_for_kind_eq_scan (context : SelectorContext) (kind : SelectorKind) :
    context.stored.valuesForKind kind = context.stored.scan kind := by
  rw [stored_values_for_kind, stored_scan]
  ext values
  rw [context.values_for_kind_some_iff, context.scan_some_iff]

/-- Listing a value in an entry is the same in the stored form. -/
theorem stored_add_value_ok (context : SelectorContext) (position : Nat)
    (inside : position < context.entries.length) (value : String)
    (normalized : IsContextValue value) (entry : SelectorValues)
    (added : context.entries[position].addValue value normalized = .ok entry)
    (sameKind : entry.kind = context.entries[position].kind) :
    context.stored.addValue position context.entries[position].stored value =
      ((context.replaceEntry position inside entry sameKind).stored, .ok ()) := by
  have replaced : (context.replaceEntry position inside entry sameKind).stored =
      { context.stored with entries := context.stored.entries.set position entry.stored } := by
    simp only [stored, replaceEntry, List.map_set]
  rw [replaced, StoredContext.addValue]
  unfold SelectorValues.addValue at added
  split at added
  · rename_i listed
    cases added
    have kept : context.stored.entries.set position context.entries[position].stored =
        context.stored.entries := by
      have insideStored : position < context.stored.entries.length := by
        rw [stored, List.length_map]
        exact inside
      have same : context.entries[position].stored = context.stored.entries[position] := by
        simp only [stored, List.getElem_map]
      rw [same]
      exact List.set_getElem_self insideStored
    rw [if_pos (by exact listed), kept]
  · rename_i notListed
    split at added
    · rename_i room
      cases added
      have checked := (ensure_collection_limit_ok_iff "request.selector_values" _ _ ()).mpr room
      rw [if_neg (by exact notListed), SelectorValues.stored, checked]
      rfl
    · cases added

/-- A value that no longer fits leaves the stored context as it is. -/
theorem stored_add_value_error (context : SelectorContext) (position : Nat)
    (entry : SelectorValues) (value : String) (normalized : IsContextValue value)
    (problem : TrustGrantError) (failed : entry.addValue value normalized = .error problem) :
    context.stored.addValue position entry.stored value = (context.stored, .error problem) := by
  unfold SelectorValues.addValue at failed
  split at failed
  · cases failed
  · rename_i notListed
    split at failed
    · cases failed
    · rename_i full
      cases failed
      rw [StoredContext.addValue, if_neg (by exact notListed), ensureCollectionLimit,
        Results.rejectIf, if_pos (by exact Nat.lt_of_not_le full)]
      rfl

/-- Pushing an entry is the same in the stored form. -/
theorem stored_push_entry (context : SelectorContext) (kind : SelectorKind) (value : String)
    (normalized : IsContextValue value)
    (fresh : ∀ other ∈ context.entries.map SelectorValues.kind, other.sameKind kind = false)
    (room : context.entries.length + 1 ≤ maxRequestSelectorKinds) :
    context.stored.pushEntry kind value =
      ((context.pushEntry (.single kind value normalized) fresh room).stored, .ok ()) := by
  have sameLength : context.stored.entries.length = context.entries.length := List.length_map _
  have checked : ensureCollectionLimit "request.selector_kinds"
      (context.stored.entries.length + 1) maxRequestSelectorKinds = .ok () := by
    rw [ensure_collection_limit_ok_iff, sameLength]
    exact room
  have pushed : (context.pushEntry (.single kind value normalized) fresh room).stored =
      ⟨context.stored.entries ++ [⟨kind, [value]⟩], context.pushedIndex kind⟩ := by
    simp only [stored, pushEntry, List.map_append, List.map_singleton]
    rfl
  rw [pushed, StoredContext.pushEntry, checked, InPlace.or_return_ok, pushedIndex]
  cases located : kind.kindIndex with
  | none => rfl
  | some slot =>
    simp only [List.length_append, List.length_singleton, Nat.add_sub_cancel, sameLength]
    rfl

/-- An entry too many leaves the stored context as it is. The limit is checked before the entry
is pushed. -/
theorem stored_push_entry_full (context : SelectorContext) (kind : SelectorKind) (value : String)
    (full : ¬ context.entries.length + 1 ≤ maxRequestSelectorKinds) :
    context.stored.pushEntry kind value =
      (context.stored,
        .error (.collectionTooLarge "request.selector_kinds" maxRequestSelectorKinds)) := by
  have sameLength : context.stored.entries.length = context.entries.length := List.length_map _
  rw [StoredContext.pushEntry, ensureCollectionLimit, sameLength, Results.rejectIf,
    if_pos (Nat.lt_of_not_le full)]
  rfl

/-- A validated insertion is the same in the stored form, and one that fails leaves both
contexts as they are. -/
theorem stored_insert_validated (context : SelectorContext) (kind : SelectorKind)
    (value : String) (normalized : IsContextValue value) :
    context.stored.insertNormalized kind value =
      InPlace.ofResult context.stored
        ((context.insertValidated kind value normalized).map stored) := by
  unfold insertValidated
  split
  · rename_i position found
    have inside := (List.findIdx?_eq_some_iff_getElem.mp found).1
    rw [StoredContext.insertNormalized, context.stored_find_some kind position inside found]
    dsimp only
    split
    · rename_i entry added
      exact stored_add_value_ok context position inside value normalized entry added _
    · rename_i problem added
      exact stored_add_value_error context position _ value normalized problem added
  · rename_i absent
    rw [StoredContext.insertNormalized, context.stored_find_none kind absent]
    dsimp only
    split
    · rename_i room
      exact stored_push_entry context kind value normalized _ room
    · rename_i full
      exact stored_push_entry_full context kind value full

/-- A call on the stored context is the call on the carried one. -/
theorem stored_insert (context : SelectorContext) (kindName value : String) :
    context.stored.insert kindName value =
      InPlace.ofResult context.stored ((context.insert kindName value).map stored) := by
  unfold insert
  split
  · rename_i problem named
    rw [StoredContext.insert, named]
    rfl
  · rename_i kind named
    split
    · rename_i problem rejected
      rw [StoredContext.insert, named, InPlace.or_return_ok, rejected]
      rfl
    · rename_i trimmed accepted
      have validated : context.stored.insert kindName value =
          context.stored.insertNormalized kind trimmed := by
        rw [StoredContext.insert, named, InPlace.or_return_ok, accepted, InPlace.or_return_ok]
      exact validated.trans (stored_insert_validated context kind trimmed _)

end SelectorContext

namespace StoredContext

/-- One call of a run. -/
def step (context : StoredContext) (call : String × String) : Call :=
  context.insert call.1 call.2

/-- The context and the results after a sequence of calls. Failed calls are among them, with what
they left behind. -/
def run (calls : List (String × String)) :
    StoredContext × List ((String × String) × Except TrustGrantError Unit) :=
  Runs.run step new calls

/-- The values that the successful calls among these gave a kind, trimmed. A failed call gives
nothing. -/
def Inserted (record : List ((String × String) × Except TrustGrantError Unit))
    (kind : SelectorKind) (value : String) : Prop :=
  ∃ kindName text named, ((kindName, text), .ok ()) ∈ record ∧
    SelectorKind.new kindName = .ok named ∧ named.sameKind kind = true ∧ value = Text.trim text

/-- One more call gives its value to its kind when it succeeds, and nothing else. -/
theorem inserted_snoc (record : List ((String × String) × Except TrustGrantError Unit))
    (kindName text : String) (result : Except TrustGrantError Unit) (kind : SelectorKind)
    (value : String) :
    Inserted (record ++ [((kindName, text), result)]) kind value ↔
      Inserted record kind value ∨ (result = .ok () ∧ ∃ named,
        SelectorKind.new kindName = .ok named ∧ named.sameKind kind = true ∧
          value = Text.trim text) := by
  constructor
  · rintro ⟨otherName, otherText, named, member, isNamed, same, trimmed⟩
    rcases List.mem_append.mp member with earlier | last
    · exact .inl ⟨otherName, otherText, named, earlier, isNamed, same, trimmed⟩
    · cases List.mem_singleton.mp last
      exact .inr ⟨rfl, named, isNamed, same, trimmed⟩
  · rintro (⟨otherName, otherText, named, member, rest⟩ | ⟨rfl, named, rest⟩)
    · exact ⟨otherName, otherText, named, List.mem_append_left _ member, rest⟩
    · exact ⟨kindName, text, named, List.mem_append_right _ (List.mem_singleton.mpr rfl), rest⟩

/-- What the successful calls among these were read as, in their order. -/
def accepted (record : List ((String × String) × Except TrustGrantError Unit)) :
    List (SelectorKind × String) :=
  record.filterMap fun answered =>
    match answered.2 with
    | .ok () => (readInsertion answered.1).toOption
    | .error _ => none

/-- One more call adds its texts when it succeeds. -/
theorem accepted_snoc (record : List ((String × String) × Except TrustGrantError Unit))
    (texts : String × String) (result : Except TrustGrantError Unit) :
    accepted (record ++ [(texts, result)]) = accepted record ++ accepted [(texts, result)] :=
  List.filterMap_append

/-- After any calls the stored context is a carried one that is what the successful calls come
to. A failed call leaves the history as it leaves the context. -/
theorem run_collects (calls : List (String × String)) :
    ∃ context : SelectorContext, (run calls).1 = context.stored ∧
      context.Collects (accepted (run calls).2) := by
  refine Runs.run_invariant step new (fun _ => True)
    (fun record state => ∃ context : SelectorContext, state = context.stored ∧
      context.Collects (accepted record)) ⟨.new, rfl, .nothing⟩ ?_ calls fun _ _ => trivial
  rintro record _ ⟨kindName, text⟩ - ⟨context, rfl, collects⟩
  rw [step, context.stored_insert, accepted_snoc]
  cases called : context.insert kindName text with
  | ok next =>
    obtain ⟨kind, value, normalized, read, inserted⟩ :=
      (SelectorContext.insert_ok_iff (kindName, text)).mp called
    refine ⟨next, rfl, ?_⟩
    have last : accepted [((kindName, text), .ok ())] = [(kind, value)] := by
      simp [accepted, read, Except.toOption]
    exact last ▸ SelectorContext.insert_validated_collects collects inserted
  | error problem =>
    refine ⟨context, rfl, ?_⟩
    exact (List.append_nil (accepted record)).symm ▸ collects

/-- One more call succeeds exactly when it is well formed and what the calls come to with it is
within the limits. -/
theorem insert_succeeds_iff (context : SelectorContext) (history : List (SelectorKind × String))
    (collects : context.Collects history) (kindName text : String) :
    (context.stored.insert kindName text).2 = .ok () ↔
      ∃ item, readInsertion (kindName, text) = .ok item ∧
        HistoryWithinLimits (history ++ [item]) := by
  have onCarried : (context.stored.insert kindName text).2 = .ok () ↔
      ∃ extended, context.insert kindName text = .ok extended := by
    rw [context.stored_insert]
    cases context.insert kindName text with
    | ok next => exact iff_of_true rfl ⟨next, rfl⟩
    | error problem => exact iff_of_false nofun nofun
  rw [onCarried]
  constructor
  · rintro ⟨extended, called⟩
    obtain ⟨kind, value, normalized, read, inserted⟩ :=
      (SelectorContext.insert_ok_iff (kindName, text)).mp called
    exact ⟨(kind, value), read, SelectorContext.within_of_collects
      (SelectorContext.insert_validated_collects collects inserted)⟩
  · rintro ⟨item, read, within⟩
    have normalized := SelectorContext.read_insertion_normalized (kindName, text) item read
    obtain ⟨extended, inserted⟩ :=
      SelectorContext.insert_validated_succeeds collects normalized within
    exact ⟨extended, (SelectorContext.insert_ok_iff (kindName, text)).mpr
      ⟨item.1, item.2, normalized, read, inserted⟩⟩

/-- After any calls the stored context is a carried one that lists what they inserted. -/
theorem run_stored (calls : List (String × String)) :
    ∃ context : SelectorContext, (run calls).1 = context.stored ∧
      ∀ kind value, value ∈ context.valueSet kind ↔ Inserted (run calls).2 kind value := by
  refine Runs.run_invariant step new (fun _ => True)
    (fun record state => ∃ context : SelectorContext, state = context.stored ∧
      ∀ kind value, value ∈ context.valueSet kind ↔ Inserted record kind value)
    ?_ ?_ calls fun _ _ => trivial
  · refine ⟨.new, rfl, fun kind value => ⟨?_, ?_⟩⟩
    · rintro ⟨entry, listed, -⟩
      cases listed
    · rintro ⟨_, _, _, member, -⟩
      cases member
  · rintro record _ ⟨kindName, text⟩ - ⟨context, rfl, lists⟩
    rw [step, context.stored_insert]
    cases called : context.insert kindName text with
    | ok next =>
      obtain ⟨named, isNamed, -, values⟩ := context.insert_value_set kindName text next called
      refine ⟨next, rfl, fun kind value => ?_⟩
      rw [values, lists, inserted_snoc]
      simp [isNamed, Except.map]
    | error problem =>
      refine ⟨context, rfl, fun kind value => ?_⟩
      rw [lists, inserted_snoc]
      simp [Except.map]

/-- After any calls, failed ones included, the entries and the index fit together, lookup
is a linear search, and it finds under every kind exactly the values that were successfully
inserted under an equal one. One more call succeeds exactly when it is well formed and what the
successful calls come to with it is within the limits; one that fails leaves the context as it
was. The induction over the calls keeps a context of the carried type beside the stored one.

Proof: by the same induction the successful calls have a history, to which the result on
insertions applies. -/
theorem context_of_calls (calls : List (String × String)) :
    (run calls).1.Exact ∧
      (∀ kind, (run calls).1.valuesForKind kind = (run calls).1.scan kind) ∧
      (∀ kind, (run calls).1.valuesForKind kind = none ↔
        ∀ value, ¬ Inserted (run calls).2 kind value) ∧
      (∀ kind values, (run calls).1.valuesForKind kind = some values →
        values.Nodup ∧ ∀ value, value ∈ values ↔ Inserted (run calls).2 kind value) ∧
      (∀ kindName text, ((run calls).1.insert kindName text).2 = .ok () ↔
        ∃ item, readInsertion (kindName, text) = .ok item ∧
          HistoryWithinLimits (accepted (run calls).2 ++ [item])) ∧
      ∀ kindName text problem, ((run calls).1.insert kindName text).2 = .error problem →
        ((run calls).1.insert kindName text).1 = (run calls).1 := by
  obtain ⟨context, state, lists⟩ := run_stored calls
  obtain ⟨contextToo, stateToo, collects⟩ := run_collects calls
  have succeeds := insert_succeeds_iff contextToo _ collects
  rw [← stateToo] at succeeds
  rw [state] at succeeds ⊢
  refine ⟨context.stored_exact, context.values_for_kind_eq_scan, ?_, ?_, succeeds, ?_⟩
  · intro kind
    rw [context.stored_values_for_kind]
    constructor
    · intro nothing value inserted
      obtain ⟨values, found, -⟩ :=
        (context.mem_value_set_iff kind value).mp ((lists kind value).mpr inserted)
      rw [nothing] at found
      cases found
    · intro nothing
      cases found : context.valuesForKind kind with
      | none => rfl
      | some values =>
        obtain ⟨entry, listed, same, rfl⟩ := (context.values_for_kind_some_iff kind values).mp found
        obtain ⟨value, member⟩ := List.exists_mem_of_ne_nil _ entry.present
        exact absurd ((lists kind value).mp ⟨entry, listed, same, member⟩) (nothing value)
  · intro kind values found
    rw [context.stored_values_for_kind] at found
    obtain ⟨entry, listed, same, rfl⟩ := (context.values_for_kind_some_iff kind values).mp found
    refine ⟨entry.distinct, fun value => ?_⟩
    rw [← lists, context.mem_value_set_iff]
    simp [found]
  · intro kindName text problem failed
    rw [context.stored_insert] at failed ⊢
    cases called : context.insert kindName text with
    | ok next =>
      rw [called] at failed
      cases failed
    | error other => rfl

end StoredContext

end TrustGrant
