import TrustGrant.Evaluate.SelectorContext

/-!
# The text key of a selector context

Per-user counters are kept under a text made from the principal context: the entries
ordered by the spelling of their kind, each with its values in order, every text behind
its length in bytes. The lengths make the text readable again whatever characters the
values contain, so two contexts have one key exactly when they list the same values
under the same spellings.
-/

namespace TrustGrant

open Rust Library Library.PrefixCode Library.Decimal

namespace SelectorContext

/-- A text behind its length and a colon. -/
def writeSized (text : String) : List Char := digits (Text.len text) ++ ':' :: text.toList

/-- One entry of the key: the kind, each value behind a bar, and a semicolon. -/
def writeEntry (entry : String × List String) : List Char :=
  writeSized entry.1 ++ (entry.2.flatMap (fun value => '|' :: writeSized value) ++ [';'])

/-- The kind and the ordered values of an entry. -/
def keyedEntry (entry : SelectorValues) : String × List String :=
  (entry.kind.asStr, entry.values.insertionSort (· ≤ ·))

/-- The entries as the key lists them. -/
def keyedEntries (context : SelectorContext) : List (String × List String) :=
  (context.entries.map keyedEntry).insertionSort fun left right => left.1 ≤ right.1

/-- The text under which a context's mints are counted. -/
def stableKey (context : SelectorContext) : String :=
  String.ofList (context.keyedEntries.flatMap writeEntry)

/-- A sized text ends where its length says. -/
theorem write_sized_self_delimiting : SelfDelimiting writeSized := by
  intro left right leftRest rightRest same
  simp only [writeSized, List.append_assoc, List.cons_append] at same
  obtain ⟨sameLength, sameRest⟩ :=
    digits_terminated (Text.len left) (Text.len right) ':' ':' _ _ rfl rfl same
  exact Text.text_of_length left right _ _ sameLength (List.tail_eq_of_cons_eq sameRest)

/-- An entry ends at its semicolon, which no length can be mistaken for. -/
theorem write_entry_self_delimiting : SelfDelimiting writeEntry := by
  rintro ⟨leftKind, leftValues⟩ ⟨rightKind, rightValues⟩ leftRest rightRest same
  simp only [writeEntry, List.append_assoc] at same
  obtain ⟨sameKind, remaining⟩ := write_sized_self_delimiting _ _ _ _ same
  obtain ⟨sameValues, sameRest⟩ := followers_closed write_sized_self_delimiting '|' ';'
    (by decide) leftValues rightValues leftRest rightRest remaining
  exact ⟨by rw [sameKind, sameValues], sameRest⟩

/-- The key determines the ordered entries. Every text is written behind its length, so the
entries can be cut off one after the other. -/
theorem keyed_entries_of_stable_key (left right : SelectorContext)
    (same : left.stableKey = right.stableKey) : left.keyedEntries = right.keyedEntries := by
  have visible : ∀ entry, writeEntry entry ≠ [] := by
    intro entry
    simp [writeEntry]
  have sameText : left.keyedEntries.flatMap writeEntry = right.keyedEntries.flatMap writeEntry := by
    rw [← String.toList_ofList (l := left.keyedEntries.flatMap writeEntry),
      ← String.toList_ofList (l := right.keyedEntries.flatMap writeEntry)]
    exact congrArg String.toList same
  exact sequence_injective write_entry_self_delimiting visible sameText

/-- The values listed under one spelling of a kind. -/
def spelledSet (context : SelectorContext) (spelling : String) : Set String :=
  { value | ∃ entry ∈ context.entries, entry.kind.asStr = spelling ∧ value ∈ entry.values }

/-- Two contexts list the same values under every spelling. -/
def SameSpelling (left right : SelectorContext) : Prop :=
  ∀ spelling, left.spelledSet spelling = right.spelledSet spelling

/-- The values of a spelling can be read from the ordered entries. Ordering moves entries and
values and drops none of them. -/
theorem mem_spelled_set_iff (context : SelectorContext) (spelling value : String) :
    value ∈ context.spelledSet spelling ↔
      ∃ keyed ∈ context.keyedEntries, keyed.1 = spelling ∧ value ∈ keyed.2 := by
  simp only [spelledSet, keyedEntries, Set.mem_ofPred_eq, List.mem_insertionSort, List.mem_map]
  constructor
  · rintro ⟨entry, listed, spelled, member⟩
    exact ⟨_, ⟨entry, listed, rfl⟩, spelled, (List.mem_insertionSort _).mpr member⟩
  · rintro ⟨-, ⟨entry, listed, rfl⟩, spelled, member⟩
    exact ⟨entry, listed, spelled, (List.mem_insertionSort _).mp member⟩

/-- Entries spelled alike are one entry. -/
theorem entry_unique_of_spelling (context : SelectorContext) (first second : SelectorValues)
    (firstListed : first ∈ context.entries) (secondListed : second ∈ context.entries)
    (spelled : first.kind.asStr = second.kind.asStr) : first = second :=
  context.entry_unique first second firstListed secondListed
    (SelectorKind.same_kind_of_spelling _ _ spelled)

/-- Values in order are determined by their set. There is one increasing list of distinct
values. -/
theorem sorted_values_unique (left right : List String) (leftDistinct : left.Nodup)
    (rightDistinct : right.Nodup) (same : ∀ value, value ∈ left ↔ value ∈ right) :
    left.insertionSort (· ≤ ·) = right.insertionSort (· ≤ ·) := by
  have permuted : left.Perm right :=
    (List.perm_ext_iff_of_nodup leftDistinct rightDistinct).mpr same
  exact List.Perm.eq_of_pairwise' (List.pairwise_insertionSort _ left)
    (List.pairwise_insertionSort _ right)
    ((List.perm_insertionSort _ left).trans
      (permuted.trans (List.perm_insertionSort _ right).symm))

/-- Contexts that list the same under every spelling have the same entries, up to
order. -/
theorem keyed_entry_transfer (left right : SelectorContext) (same : SameSpelling left right)
    (keyed : String × List String) (member : keyed ∈ left.entries.map keyedEntry) :
    keyed ∈ right.entries.map keyedEntry := by
  obtain ⟨entry, listed, rfl⟩ := List.mem_map.mp member
  have transfer : ∀ value, value ∈ left.spelledSet entry.kind.asStr ↔
      value ∈ right.spelledSet entry.kind.asStr := by
    intro value
    rw [same entry.kind.asStr]
  obtain ⟨value, present⟩ := List.exists_mem_of_ne_nil entry.values entry.present
  obtain ⟨other, otherListed, spelled, -⟩ :=
    (transfer value).mp ⟨entry, listed, rfl, present⟩
  have sameValues : ∀ candidate, candidate ∈ other.values ↔ candidate ∈ entry.values := by
    intro candidate
    constructor
    · intro inOther
      obtain ⟨source, sourceListed, sourceSpelled, inSource⟩ :=
        (transfer candidate).mpr ⟨other, otherListed, spelled, inOther⟩
      rw [left.entry_unique_of_spelling source entry sourceListed listed sourceSpelled] at inSource
      exact inSource
    · intro inEntry
      obtain ⟨target, targetListed, targetSpelled, inTarget⟩ :=
        (transfer candidate).mp ⟨entry, listed, rfl, inEntry⟩
      rw [right.entry_unique_of_spelling target other targetListed otherListed
        (targetSpelled.trans spelled.symm)] at inTarget
      exact inTarget
  refine List.mem_map.mpr ⟨other, otherListed, ?_⟩
  rw [keyedEntry, keyedEntry, spelled,
    sorted_values_unique other.values entry.values other.distinct entry.distinct sameValues]

/-- Spellings do not repeat in a context. -/
theorem spellings_distinct (context : SelectorContext) :
    (context.entries.map keyedEntry).Pairwise fun left right => left.1 ≠ right.1 := by
  have distinct := List.pairwise_map.mp context.distinctKinds
  refine List.pairwise_map.mpr (distinct.imp ?_)
  intro first second different spelled
  rw [SelectorKind.same_kind_of_spelling _ _ spelled] at different
  cases different

/-- Two contexts have one key exactly when they list the same values under the same
spellings. -/
theorem stable_key_eq_iff (left right : SelectorContext) :
    left.stableKey = right.stableKey ↔ SameSpelling left right := by
  constructor
  · intro sameKey spelling
    ext value
    rw [mem_spelled_set_iff, mem_spelled_set_iff, keyed_entries_of_stable_key left right sameKey]
  · intro same
    have distinctEntries : ∀ context : SelectorContext, (context.entries.map keyedEntry).Nodup :=
      fun context => context.spellings_distinct.imp fun apart equal => apart (by rw [equal])
    have permuted : (left.entries.map keyedEntry).Perm (right.entries.map keyedEntry) := by
      rw [List.perm_ext_iff_of_nodup (distinctEntries left) (distinctEntries right)]
      intro keyed
      exact ⟨left.keyed_entry_transfer right same keyed,
        right.keyed_entry_transfer left (fun spelling => (same spelling).symm) keyed⟩
    have total : Std.Total fun first second : String × List String => first.1 ≤ second.1 :=
      ⟨fun first second => le_total first.1 second.1⟩
    have transitive : IsTrans (String × List String) fun first second => first.1 ≤ second.1 :=
      ⟨fun _ _ _ before after => le_trans before after⟩
    have sameEntries : left.keyedEntries = right.keyedEntries := by
      refine List.Perm.eq_of_pairwise ?_ (List.pairwise_insertionSort _ _)
        (List.pairwise_insertionSort _ _) ((List.perm_insertionSort _ _).trans
          (permuted.trans (List.perm_insertionSort _ _).symm))
      intro first second firstListed secondListed before after
      obtain ⟨firstEntry, firstMember, rfl⟩ :=
        List.mem_map.mp ((List.mem_insertionSort _).mp firstListed)
      obtain ⟨secondEntry, secondMember, rfl⟩ :=
        List.mem_map.mp (permuted.mem_iff.mpr ((List.mem_insertionSort _).mp secondListed))
      rw [left.entry_unique_of_spelling firstEntry secondEntry firstMember secondMember
        (le_antisymm before after)]
    rw [stableKey, stableKey, sameEntries]

/-- Contexts that list the same under every spelling denote the same selectors. The converse
fails where a built-in kind is spelled in two ways. -/
theorem same_selectors_of_spelling (left right : SelectorContext)
    (same : SameSpelling left right) : SameSelectors left right := by
  have oneWay : ∀ first second : SelectorContext, SameSpelling first second →
      ∀ kind value, value ∈ first.valueSet kind → value ∈ second.valueSet kind := by
    rintro first second spelled kind value ⟨entry, listed, sameKind, member⟩
    have found : value ∈ first.spelledSet entry.kind.asStr := ⟨entry, listed, rfl, member⟩
    rw [spelled entry.kind.asStr] at found
    obtain ⟨other, otherListed, otherSpelled, otherMember⟩ := found
    exact ⟨other, otherListed, SelectorKind.same_kind_trans _ _ _
      (SelectorKind.same_kind_of_spelling _ _ otherSpelled) sameKind, otherMember⟩
  intro kind
  ext value
  exact ⟨oneWay left right same kind value,
    oneWay right left (fun spelling => (same spelling).symm) kind value⟩

/-- Two contexts spell the kinds they share alike. For kinds that are not built-in this is always
so. -/
def SpelledAlike (left right : SelectorContext) : Prop :=
  ∀ leftEntry ∈ left.entries, ∀ rightEntry ∈ right.entries,
    leftEntry.kind.sameKind rightEntry.kind = true →
      leftEntry.kind.asStr = rightEntry.kind.asStr

/-- Whether two contexts spell their kinds alike is decided entry by entry. -/
instance (left right : SelectorContext) : Decidable (SpelledAlike left right) := by
  unfold SpelledAlike
  infer_instance

/-- Among contexts that denote the same selectors, those that spell their kinds alike
are the ones with the same values under every spelling. -/
theorem same_spelling_iff (left right : SelectorContext) (same : SameSelectors left right) :
    SameSpelling left right ↔ SpelledAlike left right := by
  constructor
  · intro spelled leftEntry leftListed rightEntry rightListed sameKind
    obtain ⟨value, present⟩ := List.exists_mem_of_ne_nil leftEntry.values leftEntry.present
    have found : value ∈ left.spelledSet leftEntry.kind.asStr :=
      ⟨leftEntry, leftListed, rfl, present⟩
    rw [spelled leftEntry.kind.asStr] at found
    obtain ⟨other, otherListed, otherSpelled, -⟩ := found
    have otherKind := SelectorKind.same_kind_of_spelling _ _ otherSpelled
    rw [right.entry_unique rightEntry other rightListed otherListed
      (SelectorKind.same_kind_symm _ _ (SelectorKind.same_kind_trans _ _ _ otherKind sameKind))]
    exact otherSpelled.symm
  · intro alike
    have oneWay : ∀ first second : SelectorContext, SameSelectors first second →
        SpelledAlike first second → ∀ spelling value,
          value ∈ first.spelledSet spelling → value ∈ second.spelledSet spelling := by
      rintro first second denoted spelledAlike spelling value ⟨entry, listed, rfl, member⟩
      have found : value ∈ first.valueSet entry.kind :=
        ⟨entry, listed, SelectorKind.same_kind_refl _, member⟩
      rw [denoted entry.kind] at found
      obtain ⟨other, otherListed, otherKind, otherMember⟩ := found
      exact ⟨other, otherListed, (spelledAlike entry listed other otherListed
        (SelectorKind.same_kind_symm _ _ otherKind)).symm, otherMember⟩
    have turned : SpelledAlike right left :=
      fun rightEntry rightListed leftEntry leftListed kinds =>
      (alike leftEntry leftListed rightEntry rightListed
        (SelectorKind.same_kind_symm _ _ kinds)).symm
    intro spelling
    ext value
    exact ⟨oneWay left right same alike spelling value,
      oneWay right left (fun kind => (same kind).symm) turned spelling value⟩

end SelectorContext

end TrustGrant
