import TrustGrant.Library.InPlace
import TrustGrant.Library.Runs
import Mathlib.Data.Finset.Card
import Mathlib.Data.Finset.Filter
import Mathlib.Data.Finset.Insert

/-!
# Stores that never replace

Entries are inserted one by one under keys. The keys are divided into sections, and every one
of these holds a limited number of them. An insertion keeps an equal entry, refuses another
one under the same key, and adds a new one while there is room.

Whether all insertions of a sequence succeed, and what the store then holds, is a fact about
the set of the inserted entries. It does not depend on their order.
-/

namespace Library

open InPlace

universe u v
variable {σ : Type u} {ι κ τ : Type v} {ε : Type u}

/-- A store with its insertion. Some entries do not fit whatever the store holds, and there is a
limit for each section of keys. -/
structure KeyedStore (σ : Type u) (ι κ τ : Type v) (ε : Type u) where
  key : ι → κ
  sectionOf : κ → τ
  limit : τ → Nat
  Fits : ι → Prop
  empty : σ
  find : σ → κ → Option ι
  count : σ → τ → Nat
  insert : σ → ι → Call σ ε

namespace KeyedStore

/-- What one insertion does. An instance proves these laws for its own insertion, and everything
about sequences of insertions follows. -/
structure Lawful [DecidableEq κ] [DecidableEq τ] (store : KeyedStore σ ι κ τ ε) : Prop where
  nothing : ∀ key, store.find store.empty key = none
  zero : ∀ part, store.count store.empty part = 0
  succeeds : ∀ state entry, (store.insert state entry).2 = .ok () ↔
    store.Fits entry ∧ (store.find state (store.key entry) = some entry ∨
      store.find state (store.key entry) = none ∧
        store.count state (store.sectionOf (store.key entry)) + 1 ≤
          store.limit (store.sectionOf (store.key entry)))
  failed : ∀ state entry problem, (store.insert state entry).2 = .error problem →
    (store.insert state entry).1 = state
  again : ∀ state entry, store.find state (store.key entry) = some entry →
    (store.insert state entry).1 = state
  found : ∀ state entry, store.find state (store.key entry) = none →
    (store.insert state entry).2 = .ok () → ∀ key,
      store.find (store.insert state entry).1 key =
        if key = store.key entry then some entry else store.find state key
  counted : ∀ state entry, store.find state (store.key entry) = none →
    (store.insert state entry).2 = .ok () → ∀ part,
      store.count (store.insert state entry).1 part =
        store.count state part + if part = store.sectionOf (store.key entry) then 1 else 0

variable [DecidableEq κ] [DecidableEq τ] {store : KeyedStore σ ι κ τ ε}

/-- The store after a sequence of insertions, with their results. -/
def run (store : KeyedStore σ ι κ τ ε) (entries : List ι) : σ × List (ι × Except ε Unit) :=
  Runs.run store.insert store.empty entries

/-- Every insertion of a sequence succeeds. -/
def AllSucceed (store : KeyedStore σ ι κ τ ε) (entries : List ι) : Prop :=
  ∀ answered ∈ (store.run entries).2, answered.2 = .ok ()

/-- The three things an insertion can do to the store. It leaves it as it is, or the entry was
absent and is inserted; a failure is among the first. -/
theorem insert_cases (lawful : store.Lawful) (state : σ) (entry : ι) :
    (store.insert state entry).1 = state ∨
      store.find state (store.key entry) = none ∧ (store.insert state entry).2 = .ok () := by
  cases result : (store.insert state entry).2 with
  | error problem => exact .inl (lawful.failed state entry problem result)
  | ok done =>
    obtain ⟨-, present | ⟨absent, -⟩⟩ := (lawful.succeeds state entry).mp result
    · exact .inl (lawful.again state entry present)
    · exact .inr ⟨absent, rfl⟩

/-- An insertion changes the lookup of its own key at most. -/
theorem find_other (lawful : store.Lawful) (state : σ) (entry : ι) (key : κ)
    (other : key ≠ store.key entry) :
    store.find (store.insert state entry).1 key = store.find state key := by
  rcases insert_cases lawful state entry with same | ⟨absent, inserted⟩
  · rw [same]
  · rw [lawful.found state entry absent inserted, if_neg other]

/-- An entry that was inserted is found under its key, whether it is new or was there before. -/
theorem find_succeeded (lawful : store.Lawful) (state : σ) (entry : ι)
    (succeeded : (store.insert state entry).2 = .ok ()) :
    store.find (store.insert state entry).1 (store.key entry) = some entry := by
  obtain ⟨-, present | ⟨absent, -⟩⟩ := (lawful.succeeds state entry).mp succeeded
  · rw [lawful.again state entry present, present]
  · rw [lawful.found state entry absent succeeded, if_pos rfl]

/-- An entry that is present stays, whatever is inserted. An entry is inserted only where there
is none. -/
theorem find_kept (lawful : store.Lawful) (state : σ) (entry present : ι) (key : κ)
    (found : store.find state key = some present) :
    store.find (store.insert state entry).1 key = some present := by
  rcases insert_cases lawful state entry with same | ⟨absent, -⟩
  · rw [same, found]
  · rw [find_other lawful state entry key, found]
    rintro rfl
    rw [absent] at found
    cases found

/-- What holds of a store after any insertions: the sections are within their limits, and
what is found under a key has that key and fits. -/
structure Sound (store : KeyedStore σ ι κ τ ε) (state : σ) : Prop where
  within : ∀ part, store.count state part ≤ store.limit part
  keyed : ∀ key entry, store.find state key = some entry → store.key entry = key
  fits : ∀ key entry, store.find state key = some entry → store.Fits entry

/-- One insertion keeps a store sound. An insertion changes nothing or adds its entry under a new
key; then the entry has its origin in the call, and the sizes grow in one section only. -/
theorem sound_insert (lawful : store.Lawful) (state : σ) (entry : ι) (sound : store.Sound state) :
    store.Sound (store.insert state entry).1 := by
  rcases insert_cases lawful state entry with same | ⟨absent, inserted⟩
  · rw [same]
    exact sound
  · obtain ⟨fits, present | ⟨-, room⟩⟩ := (lawful.succeeds state entry).mp inserted
    · rw [absent] at present
      cases present
    · have origin : ∀ key found, store.find (store.insert state entry).1 key = some found →
          key = store.key entry ∧ found = entry ∨ store.find state key = some found := by
        intro key found located
        rw [lawful.found state entry absent inserted] at located
        by_cases own : key = store.key entry
        · rw [if_pos own] at located
          exact .inl ⟨own, (Option.some.inj located).symm⟩
        · rw [if_neg own] at located
          exact .inr located
      refine ⟨fun part => ?_, fun key found located => ?_, fun key found located => ?_⟩
      · rw [lawful.counted state entry absent inserted]
        by_cases ofPart : part = store.sectionOf (store.key entry)
        · rw [if_pos ofPart, ofPart]
          exact room
        · rw [if_neg ofPart]
          exact sound.within part
      · rcases origin key found located with ⟨own, rfl⟩ | earlier
        · exact own.symm
        · exact sound.keyed key found earlier
      · rcases origin key found located with ⟨-, rfl⟩ | earlier
        · exact fits
        · exact sound.fits key found earlier

/-- A store is sound after any insertions. The beginning is sound because it holds nothing, and
every insertion keeps it so. -/
theorem run_sound (lawful : store.Lawful) (entries : List ι) :
    store.Sound (store.run entries).1 := by
  induction entries using List.reverseRecOn with
  | nil =>
    refine ⟨fun part => ?_, fun key entry found => ?_, fun key entry found => ?_⟩
    · exact le_of_eq_of_le (lawful.zero part) (Nat.zero_le _)
    · rw [run, Runs.run_nil, lawful.nothing] at found
      cases found
    · rw [run, Runs.run_nil, lawful.nothing] at found
      cases found
  | append_singleton entries entry inductionHypothesis =>
    rw [run, Runs.run_snoc_state]
    exact sound_insert lawful _ entry inductionHypothesis

/-- An entry that is present stays through any further insertions. The induction is on the
insertions that come later. -/
theorem run_kept (lawful : store.Lawful) (entries later : List ι) (present : ι) (key : κ)
    (found : store.find (store.run entries).1 key = some present) :
    store.find (store.run (entries ++ later)).1 key = some present := by
  induction later using List.reverseRecOn with
  | nil => rwa [List.append_nil]
  | append_singleton later entry inductionHypothesis =>
    rw [← List.append_assoc, run, Runs.run_snoc_state]
    exact find_kept lawful _ entry present key inductionHypothesis

/-- An entry that is present can be inserted again, also into a full section, and nothing
changes. -/
theorem insert_again (lawful : store.Lawful) (state : σ) (sound : store.Sound state) (entry : ι)
    (present : store.find state (store.key entry) = some entry) :
    store.insert state entry = (state, .ok ()) := by
  have succeeded := (lawful.succeeds state entry).mpr ⟨sound.fits _ _ present, .inl present⟩
  exact Prod.ext (lawful.again state entry present) succeeded

/-- The keys of a section among those of some entries. -/
def sectionKeys (store : KeyedStore σ ι κ τ ε) (entries : List ι) (part : τ) : Finset κ :=
  (entries.map store.key).toFinset.filter fun key => store.sectionOf key = part

/-- Entries that a store can hold together: each fits, those of one key are the same, and
the keys of each section are few enough. -/
structure Compatible (store : KeyedStore σ ι κ τ ε) (entries : List ι) : Prop where
  fits : ∀ entry ∈ entries, store.Fits entry
  agree : ∀ entry ∈ entries, ∀ other ∈ entries, store.key entry = store.key other →
    entry = other
  within : ∀ part, (store.sectionKeys entries part).card ≤ store.limit part

/-- The order of entries does not matter to whether they are compatible. All conditions speak of
the set of the entries and of the number of their keys. -/
theorem compatible_perm (entries permuted : List ι) (same : entries.Perm permuted)
    (compatible : store.Compatible entries) : store.Compatible permuted where
  fits entry member := compatible.fits entry (same.mem_iff.mpr member)
  agree entry member other inside :=
    compatible.agree entry (same.mem_iff.mpr member) other (same.mem_iff.mpr inside)
  within part := by
    have sameKeys : store.sectionKeys permuted part = store.sectionKeys entries part := by
      rw [sectionKeys, sectionKeys, List.toFinset_eq_of_perm _ _ (same.map store.key)]
    rw [sameKeys]
    exact compatible.within part

/-- The first of some compatible entries are compatible. Fewer entries have fewer keys, so no
limit is passed that was not passed before. -/
theorem compatible_front (entries : List ι) (entry : ι)
    (compatible : store.Compatible (entries ++ [entry])) : store.Compatible entries where
  fits other member := compatible.fits other (List.mem_append_left _ member)
  agree first member second inside :=
    compatible.agree first (List.mem_append_left _ member) second (List.mem_append_left _ inside)
  within part := by
    refine le_trans (Finset.card_le_card ?_) (compatible.within part)
    refine Finset.filter_subset_filter _ fun key member => ?_
    rw [List.map_append, List.toFinset_append]
    exact Finset.mem_union_left _ member

/-- One more entry brings its key into its section. Keys are counted once, so an entry that is
inserted again does not count. -/
theorem section_keys_snoc (entries : List ι) (entry : ι) (part : τ) :
    store.sectionKeys (entries ++ [entry]) part =
      if part = store.sectionOf (store.key entry) then
        Insert.insert (store.key entry) (store.sectionKeys entries part)
      else store.sectionKeys entries part := by
  have keys : ((entries ++ [entry]).map store.key).toFinset =
      Insert.insert (store.key entry) (entries.map store.key).toFinset := by
    ext key
    simp
  rw [sectionKeys, sectionKeys, keys, Finset.filter_insert]
  by_cases ofPart : part = store.sectionOf (store.key entry)
  · rw [if_pos ofPart, if_pos ofPart.symm]
  · rw [if_neg ofPart, if_neg (Ne.symm ofPart)]

/-- A store holds exactly some entries. -/
structure Holds (store : KeyedStore σ ι κ τ ε) (state : σ) (entries : List ι) : Prop where
  found : ∀ key entry, store.find state key = some entry ↔ entry ∈ entries ∧ store.key entry = key
  counted : ∀ part, store.count state part = (store.sectionKeys entries part).card

/-- Under a key that no held entry has, nothing is found. What a store holds is described by the
entries, so this is a fact about their keys. -/
theorem absent_iff (state : σ) (entries : List ι) (holds : store.Holds state entries) (key : κ) :
    store.find state key = none ↔ key ∉ entries.map store.key := by
  rw [Option.eq_none_iff_forall_ne_some, List.mem_map]
  constructor
  · rintro nothing ⟨entry, member, same⟩
    exact nothing entry ((holds.found key entry).mpr ⟨member, same⟩)
  · intro nothing entry found
    exact nothing ⟨entry, (holds.found key entry).mp found⟩

/-- A key that is new to the entries is new to its section, whose size grows by one. Other
sections keep their size. -/
theorem section_keys_card (entries : List ι) (entry : ι) (part : τ)
    (fresh : store.key entry ∉ entries.map store.key) :
    (store.sectionKeys (entries ++ [entry]) part).card =
      (store.sectionKeys entries part).card +
        if part = store.sectionOf (store.key entry) then 1 else 0 := by
  rw [section_keys_snoc]
  by_cases ofPart : part = store.sectionOf (store.key entry)
  · rw [if_pos ofPart, if_pos ofPart]
    have notInside : store.key entry ∉ store.sectionKeys entries part := by
      rw [sectionKeys, Finset.mem_filter, List.mem_toFinset]
      exact fun inside => fresh inside.1
    exact Finset.card_insert_of_notMem notInside
  · rw [if_neg ofPart, if_neg ofPart, Nat.add_zero]

/-- An entry that is held already adds no key. Keys are counted once, however often their entry
is inserted. -/
theorem section_keys_of_mem (entries : List ι) (entry : ι) (part : τ) (member : entry ∈ entries) :
    store.sectionKeys (entries ++ [entry]) part = store.sectionKeys entries part := by
  rw [section_keys_snoc]
  by_cases ofPart : part = store.sectionOf (store.key entry)
  · rw [if_pos ofPart]
    refine Finset.insert_eq_of_mem ?_
    rw [sectionKeys, Finset.mem_filter, List.mem_toFinset]
    exact ⟨List.mem_map_of_mem member, ofPart.symm⟩
  · rw [if_neg ofPart]

/-- A store that holds an entry holds it again. Neither the keys nor their entries change. -/
theorem holds_again (state : σ) (entries : List ι) (entry : ι)
    (holds : store.Holds state entries) (member : entry ∈ entries) :
    store.Holds state (entries ++ [entry]) := by
  refine ⟨fun key other => ?_, fun part => ?_⟩
  · rw [holds.found, List.mem_append, List.mem_singleton]
    constructor
    · exact fun ⟨earlier, same⟩ => ⟨.inl earlier, same⟩
    · rintro ⟨earlier | rfl, same⟩
      · exact ⟨earlier, same⟩
      · exact ⟨member, same⟩
  · rw [holds.counted, section_keys_of_mem entries entry part member]

/-- After the insertion of a new entry the store holds it as well. It is found under its own key;
under other keys nothing has changed. -/
theorem holds_inserted (lawful : store.Lawful) (state : σ) (entries : List ι) (entry : ι)
    (holds : store.Holds state entries) (absent : store.find state (store.key entry) = none)
    (inserted : (store.insert state entry).2 = .ok ()) :
    store.Holds (store.insert state entry).1 (entries ++ [entry]) := by
  have fresh := (absent_iff state entries holds _).mp absent
  refine ⟨fun key other => ?_, fun part => ?_⟩
  · rw [lawful.found state entry absent inserted, List.mem_append, List.mem_singleton]
    by_cases same : key = store.key entry
    · subst same
      rw [if_pos rfl]
      constructor
      · rintro ⟨⟩
        exact ⟨.inr rfl, rfl⟩
      · rintro ⟨earlier | rfl, same⟩
        · exact absurd (same ▸ List.mem_map_of_mem earlier) fresh
        · rfl
    · rw [if_neg same, holds.found]
      constructor
      · exact fun ⟨earlier, ofKey⟩ => ⟨.inl earlier, ofKey⟩
      · rintro ⟨earlier | rfl, ofKey⟩
        · exact ⟨earlier, ofKey⟩
        · exact absurd ofKey.symm same
  · rw [lawful.counted state entry absent inserted, holds.counted,
      section_keys_card entries entry part fresh]

/-- After a successful insertion the store holds the entry as well. -/
theorem holds_insert (lawful : store.Lawful) (state : σ) (entries : List ι) (entry : ι)
    (holds : store.Holds state entries) (inserted : (store.insert state entry).2 = .ok ()) :
    store.Holds (store.insert state entry).1 (entries ++ [entry]) := by
  obtain ⟨-, present | ⟨absent, -⟩⟩ := (lawful.succeeds state entry).mp inserted
  · rw [lawful.again state entry present]
    exact holds_again state entries entry holds ((holds.found _ entry).mp present).1
  · exact holds_inserted lawful state entries entry holds absent inserted

/-- An entry that is listed already keeps entries compatible. The list only repeats what it
has. -/
theorem compatible_again (entries : List ι) (entry : ι) (compatible : store.Compatible entries)
    (member : entry ∈ entries) : store.Compatible (entries ++ [entry]) := by
  have inside : ∀ other ∈ entries ++ [entry], other ∈ entries := by
    intro other listed
    rcases List.mem_append.mp listed with earlier | last
    · exact earlier
    · exact List.mem_singleton.mp last ▸ member
  refine ⟨fun other listed => compatible.fits other (inside other listed),
    fun first listed second other =>
      compatible.agree first (inside first listed) second (inside second other), fun part => ?_⟩
  rw [section_keys_of_mem entries entry part member]
  exact compatible.within part

/-- So does one that fits under a new key, while its section has room. No entry under another key
can clash with it. -/
theorem compatible_fresh (entries : List ι) (entry : ι) (compatible : store.Compatible entries)
    (fits : store.Fits entry) (fresh : store.key entry ∉ entries.map store.key)
    (room : (store.sectionKeys entries (store.sectionOf (store.key entry))).card + 1 ≤
      store.limit (store.sectionOf (store.key entry))) :
    store.Compatible (entries ++ [entry]) := by
  refine ⟨fun other listed => ?_, fun first listed second other same => ?_, fun part => ?_⟩
  · rcases List.mem_append.mp listed with earlier | last
    · exact compatible.fits other earlier
    · exact List.mem_singleton.mp last ▸ fits
  · rcases List.mem_append.mp listed with firstEarlier | firstLast <;>
      rcases List.mem_append.mp other with secondEarlier | secondLast
    · exact compatible.agree first firstEarlier second secondEarlier same
    · rw [List.mem_singleton.mp secondLast] at same
      exact absurd (same ▸ List.mem_map_of_mem firstEarlier) fresh
    · rw [List.mem_singleton.mp firstLast] at same
      exact absurd (same ▸ List.mem_map_of_mem secondEarlier) fresh
    · rw [List.mem_singleton.mp firstLast, List.mem_singleton.mp secondLast]
  · rw [section_keys_card entries entry part fresh]
    by_cases ofPart : part = store.sectionOf (store.key entry)
    · rw [if_pos ofPart, ofPart]
      exact room
    · rw [if_neg ofPart]
      exact compatible.within part

/-- An insertion succeeds exactly when the entry is compatible with the held ones. Either its key
is taken, and then the entries must be equal, or it is new, and then the size of the section
decides. -/
theorem insert_ok_iff (lawful : store.Lawful) (state : σ) (entries : List ι) (entry : ι)
    (holds : store.Holds state entries) (compatible : store.Compatible entries) :
    (store.insert state entry).2 = .ok () ↔ store.Compatible (entries ++ [entry]) := by
  rw [lawful.succeeds]
  constructor
  · rintro ⟨fits, present | ⟨absent, room⟩⟩
    · exact compatible_again entries entry compatible ((holds.found _ entry).mp present).1
    · rw [holds.counted] at room
      exact compatible_fresh entries entry compatible fits
        ((absent_iff state entries holds _).mp absent) room
  · intro all
    have listed : entry ∈ entries ++ [entry] := List.mem_append_right _ (List.mem_singleton.mpr rfl)
    refine ⟨all.fits entry listed, ?_⟩
    cases located : store.find state (store.key entry) with
    | some other =>
      obtain ⟨earlier, same⟩ := (holds.found _ other).mp located
      rw [all.agree other (List.mem_append_left _ earlier) entry listed same]
      exact .inl rfl
    | none =>
      have fresh := (absent_iff state entries holds _).mp located
      have within := all.within (store.sectionOf (store.key entry))
      rw [section_keys_card entries entry _ fresh, if_pos rfl, ← holds.counted] at within
      exact .inr ⟨rfl, within⟩

/-- All insertions of a sequence succeed exactly when the entries are compatible, and then
the store holds exactly them. -/
theorem all_succeed_iff (lawful : store.Lawful) (entries : List ι) :
    (store.AllSucceed entries ↔ store.Compatible entries) ∧
      (store.AllSucceed entries → store.Holds (store.run entries).1 entries) := by
  induction entries using List.reverseRecOn with
  | nil =>
    have holds : store.Holds (store.run []).1 [] := by
      refine ⟨fun key entry => ?_, fun part => ?_⟩
      · rw [run, Runs.run_nil, lawful.nothing]
        simp
      · rw [run, Runs.run_nil, lawful.zero]
        simp [sectionKeys]
    have compatible : store.Compatible [] := by
      refine ⟨by simp, by simp, fun part => ?_⟩
      simp [sectionKeys]
    exact ⟨⟨fun _ => compatible, fun _ answered member => by cases member⟩, fun _ => holds⟩
  | append_singleton entries entry inductionHypothesis =>
    obtain ⟨exactly, held⟩ := inductionHypothesis
    have snoc : store.AllSucceed (entries ++ [entry]) ↔
        store.AllSucceed entries ∧ (store.insert (store.run entries).1 entry).2 = .ok () := by
      rw [AllSucceed, AllSucceed, run, Runs.run_snoc_record]
      simp only [List.forall_mem_append, List.forall_mem_singleton, run]
    rw [snoc]
    constructor
    · constructor
      · rintro ⟨earlier, last⟩
        exact (insert_ok_iff lawful _ entries entry (held earlier) (exactly.mp earlier)).mp last
      · intro compatible
        have front := compatible_front entries entry compatible
        have earlier := exactly.mpr front
        exact ⟨earlier, (insert_ok_iff lawful _ entries entry (held earlier) front).mpr compatible⟩
    · rintro ⟨earlier, last⟩
      rw [run, Runs.run_snoc_state]
      exact holds_insert lawful _ entries entry (held earlier) last

/-- A sequence of insertions that all succeed does so in any order, and the store answers
the same. -/
theorem all_succeed_perm (lawful : store.Lawful) (entries permuted : List ι)
    (same : entries.Perm permuted) (succeeded : store.AllSucceed entries) :
    store.AllSucceed permuted ∧
      (∀ key, store.find (store.run permuted).1 key = store.find (store.run entries).1 key) ∧
      ∀ part, store.count (store.run permuted).1 part = store.count (store.run entries).1 part := by
  obtain ⟨exactly, held⟩ := all_succeed_iff lawful entries
  obtain ⟨exactlyPermuted, heldPermuted⟩ := all_succeed_iff lawful permuted
  have permutedSucceeds :=
    exactlyPermuted.mpr (compatible_perm entries permuted same (exactly.mp succeeded))
  have holds := held succeeded
  have holdsPermuted := heldPermuted permutedSucceeds
  refine ⟨permutedSucceeds, fun key => Option.ext fun entry => ?_, fun part => ?_⟩
  · rw [holds.found, holdsPermuted.found, same.mem_iff]
  · rw [holds.counted, holdsPermuted.counted, sectionKeys, sectionKeys,
      List.toFinset_eq_of_perm _ _ (same.map store.key)]

end KeyedStore

end Library
