import TrustGrant.Domain.Utf16Order
import TrustGrant.Library.SearchTree
import Mathlib.Tactic.SplitIfs

/-!
# Keys in UTF-16 order, borrowed as strings

A key can be borrowed as its string, so a map of keys can be searched by a string. The map
is ordered by code units and the search compares scalar values. The two orders agree but
for a supplementary scalar value against one of U+E000 to U+FFFF: the former is written
with surrogates, which come first among the units.

The condition for the two orders to agree is stated on a pair of texts, at the first
position where they differ. A search goes wrong exactly when it meets a key on its way that
is ordered the other way, which the rule for searches under another comparison turns into an
equivalence.
-/

namespace TrustGrant

open Library

namespace Utf16Key

/-- Compare scalar value by scalar value; a proper beginning comes first. It is how strings are
ordered. -/
def compareScalars : List Char → List Char → Ordering
  | [], [] => .eq
  | [], _ :: _ => .lt
  | _ :: _, [] => .gt
  | left :: lefts, right :: rights =>
    if left.toNat < right.toNat then .lt
    else if right.toNat < left.toNat then .gt else compareScalars lefts rights

/-- `str::cmp`: the order of the UTF-8 bytes is that of the scalar values. -/
def compareText (left right : String) : Ordering := compareScalars left.toList right.toList

/-- A scalar value with surrogates, and one of the values above the surrogates that are
written as one unit. -/
def Crossed (first second : Char) : Prop :=
  0x10000 ≤ first.toNat ∧ 0xE000 ≤ second.toNat ∧ second.toNat < 0x10000

/-- Whether two scalars are crossed is decided by their code points. -/
instance (first second : Char) : Decidable (Crossed first second) :=
  inferInstanceAs (Decidable (_ ∧ _ ∧ _))

/-- The first difference of two sequences is one that the two orders compare differently. -/
def misorderedScalars : List Char → List Char → Bool
  | left :: lefts, right :: rights =>
    if left = right then misorderedScalars lefts rights
    else decide (Crossed left right ∨ Crossed right left)
  | _, _ => false

/-- The first scalars in which two texts differ are crossed. -/
def Misordered (left right : String) : Prop :=
  misorderedScalars left.toList right.toList = true

/-- Whether two texts are misordered is decided, so that closed searches can be run. -/
instance (left right : String) : Decidable (Misordered left right) :=
  inferInstanceAs (Decidable (_ = true))

/-- Equal units at the beginning decide nothing. -/
theorem compare_units_append (front left right : List UInt16) :
    compareUnits (front ++ left) (front ++ right) = compareUnits left right := by
  induction front with
  | nil => rfl
  | cons unit rest inductionHypothesis =>
    simp [compareUnits, inductionHypothesis]

/-- Comparing the other way round swaps the result. The induction follows the recursion of the
comparison, unit by unit. -/
theorem compare_units_swap (left right : List UInt16) :
    compareUnits right left = (compareUnits left right).swap := by
  fun_induction compareUnits left right with
  | case1 => rfl
  | case2 => rfl
  | case3 => rfl
  | case4 left lefts right rights before =>
    simp [compareUnits, before, UInt16.lt_asymm before]
  | case5 left lefts right rights notBefore after => simp [compareUnits, after]
  | case6 left lefts right rights notBefore notAfter inductionHypothesis =>
    simp [compareUnits, notBefore, notAfter, inductionHypothesis]

/-- Equal is what is the same. In every other case of the recursion the first difference
decides. -/
theorem compare_units_eq_iff (left right : List UInt16) :
    compareUnits left right = .eq ↔ left = right := by
  fun_induction compareUnits left right with
  | case1 => simp
  | case2 => simp
  | case3 => simp
  | case4 left lefts right rights before =>
    simp [UInt16.ne_of_lt before]
  | case5 left lefts right rights notBefore after =>
    simp [(UInt16.ne_of_lt after).symm]
  | case6 left lefts right rights notBefore notAfter inductionHypothesis =>
    have same : left = right :=
      UInt16.le_antisymm (UInt16.not_lt.mp notAfter) (UInt16.not_lt.mp notBefore)
    simp [inductionHypothesis, same]

/-- Different scalar values are compared by their values, but for crossed ones. A scalar is one
unit, or two units of which the first is a surrogate; the four pairs of forms are compared by
arithmetic. Crossed scalars are one above the surrogates in one unit and one in two units. -/
theorem compare_encoded_lt_iff (first second : Char) (left right : List UInt16)
    (different : first ≠ second) :
    compareUnits (encodeChar first ++ left) (encodeChar second ++ right) = .lt ↔
      first.toNat < second.toNat ∧ ¬ Crossed second first ∨ Crossed first second := by
  have apart : first.toNat ≠ second.toNat := fun same => different (Char.toNat_inj.mp same)
  have range := scalar_range first
  have range' := scalar_range second
  unfold Crossed
  rcases encode_char_cases first with
    ⟨unit, written, value, scalar⟩ | ⟨high, low, written, highValue, lowValue, large, small⟩ <;>
  rcases encode_char_cases second with
    ⟨unit', written', value', scalar'⟩ |
      ⟨high', low', written', highValue', lowValue', large', small'⟩ <;>
  rw [compare_units_lt_iff, written, written'] <;>
  simp only [List.map_cons, List.cons_append, List.nil_append, List.cons_lt_cons_iff]
  · have bounded := unit.toNat_lt
    have bounded' := unit'.toNat_lt
    have unitsApart : unit.toNat ≠ unit'.toNat := by omega
    simp only [unitsApart, false_and, or_false]
    omega
  · have bounded := unit.toNat_lt
    have unitsApart : unit.toNat ≠ high'.toNat := by omega
    simp only [unitsApart, false_and, or_false]
    omega
  · have bounded' := unit'.toNat_lt
    have unitsApart : high.toNat ≠ unit'.toNat := by omega
    simp only [unitsApart, false_and, or_false]
    omega
  · have lowApart : high.toNat = high'.toNat → low.toNat ≠ low'.toNat := by omega
    by_cases sameHigh : high.toNat = high'.toNat
    · simp only [sameHigh, lt_irrefl, lowApart sameHigh, true_and, false_and, or_false, false_or]
      omega
    · simp only [sameHigh, false_and, or_false]
      omega

/-- The two orders agree exactly on sequences that are not misordered. The induction follows the
scan for the first difference; up to it the units are equal, and at it the comparison of two
scalars decides. -/
theorem compare_agrees_iff (left right : List Char) :
    compareUnits (left.flatMap encodeChar) (right.flatMap encodeChar) =
        compareScalars left right ↔ misorderedScalars left right = false := by
  have written : ∀ c : Char, ∃ unit units, encodeChar c = unit :: units := by
    intro c
    rcases encode_char_cases c with ⟨unit, single, -, -⟩ | ⟨high, low, pair, -, -⟩
    · exact ⟨unit, [], single⟩
    · exact ⟨high, [low], pair⟩
  fun_induction misorderedScalars left right with
  | case1 lefts first rights inductionHypothesis =>
    rw [List.flatMap_cons, List.flatMap_cons, compare_units_append, compareScalars,
      if_neg (lt_irrefl _), if_neg (lt_irrefl _)]
    exact inductionHypothesis
  | case2 first lefts second rights different =>
    have apart : first.toNat ≠ second.toNat := fun same => different (Char.toNat_inj.mp same)
    rw [List.flatMap_cons, List.flatMap_cons, compareScalars, decide_eq_false_iff_not]
    by_cases before : first.toNat < second.toNat
    · have notCrossed : ¬ Crossed first second := fun crossed => by
        unfold Crossed at crossed
        omega
      rw [if_pos before, compare_encoded_lt_iff first second _ _ different]
      simp [before, notCrossed]
    · have after : second.toNat < first.toNat := by omega
      have notCrossed : ¬ Crossed second first := fun crossed => by
        unfold Crossed at crossed
        omega
      rw [if_neg before, if_pos after, compare_units_swap, Ordering.swap_eq_gt,
        compare_encoded_lt_iff second first _ _ (Ne.symm different)]
      simp [after, notCrossed]
  | case3 left right notBoth =>
    cases left with
    | nil =>
      cases right with
      | nil => simp [compareUnits, compareScalars]
      | cons second rights =>
        obtain ⟨unit, units, encoded⟩ := written second
        simp [encoded, compareUnits, compareScalars]
    | cons first lefts =>
      cases right with
      | nil =>
        obtain ⟨unit, units, encoded⟩ := written first
        simp [encoded, compareUnits, compareScalars]
      | cons second rights => exact absurd rfl (notBoth first lefts second rights rfl)

/-- The order of keys is that of their strings exactly when these are not misordered. -/
theorem cmp_eq_compare_text_iff (left right : Utf16Key) :
    left.cmp right = compareText left.asStr right.asStr ↔
      ¬ Misordered left.asStr right.asStr := by
  rw [Misordered, Bool.not_eq_true]
  exact compare_agrees_iff left.asStr.toList right.asStr.toList

/-- Equal keys are the same key. -/
theorem cmp_eq_iff (left right : Utf16Key) : left.cmp right = .eq ↔ left = right := by
  rw [cmp, compare_units_eq_iff, encode_utf16_injective.eq_iff]
  cases left
  cases right
  simp

/-- The comparison of keys is that of their linear order. -/
theorem cmp_eq_compare (left right : Utf16Key) : left.cmp right = compare left right := by
  rcases lt_trichotomy left right with before | rfl | after
  · rw [compare_lt_iff_lt.mpr before]
    exact before
  · rw [compare_eq_iff_eq.mpr rfl, cmp_eq_iff]
  · rw [compare_gt_iff_gt.mpr after, cmp, compare_units_swap, Ordering.swap_eq_gt]
    exact after

/-- Strings are equal for the comparison exactly when they are the same. So a search by strings
never stops at a wrong key; it can only take a wrong way. -/
theorem compare_text_eq_iff (left right : String) :
    compareText left right = .eq ↔ left = right := by
  have lists : ∀ lefts rights : List Char,
      compareScalars lefts rights = .eq ↔ lefts = rights := by
    intro lefts rights
    fun_induction compareScalars lefts rights with
    | case1 => simp
    | case2 => simp
    | case3 => simp
    | case4 left lefts right rights before =>
      have different : left ≠ right := by
        rintro rfl
        exact lt_irrefl _ before
      simp [different]
    | case5 left lefts right rights notBefore after =>
      have different : left ≠ right := by
        rintro rfl
        exact lt_irrefl _ after
      simp [different]
    | case6 left lefts right rights notBefore notAfter inductionHypothesis =>
      have same : left = right := Char.toNat_inj.mp (by omega)
      simp [inductionHypothesis, same]
  rw [compareText, lists, String.toList_inj]

end Utf16Key

/-- `BTreeMap` with these keys: the keys of its tree are in their order. The shape of the tree is
left open, as the source does not fix it. -/
structure Utf16Map (ν : Type) where
  tree : SearchTree Utf16Key ν
  ordered : tree.Ordered

namespace Utf16Map

variable {ν : Type}

/-- The map as iteration shows it. -/
def sorted (map : Utf16Map ν) : SortedMap Utf16Key ν := ⟨map.tree.entries, map.ordered⟩

/-- `BTreeMap::get` by a key. -/
def get (map : Utf16Map ν) (key : Utf16Key) : Option ν := map.tree.search key.cmp

/-- `BTreeMap::get` by a string, which is compared with the borrowed keys. -/
def getStr (map : Utf16Map ν) (text : String) : Option ν :=
  map.tree.search fun key => Utf16Key.compareText text key.asStr

/-- The map has an entry of the key. -/
def Contains (map : Utf16Map ν) (key : Utf16Key) : Prop :=
  ∃ value, (key, value) ∈ map.sorted.entries

/-- A search by a string goes wrong exactly at the misordered keys on its way. At every other key
both orders send the search the same way, and the rule for directed searches gives the rest. -/
theorem get_str_found_iff (map : Utf16Map ν) (text : String) :
    ((map.getStr text).isSome = true ↔ map.Contains ⟨text⟩) ↔
      (map.Contains ⟨text⟩ → ∀ key ∈ map.tree.route ⟨text⟩,
        ¬ Utf16Key.Misordered text key.asStr) := by
  have stops : SearchTree.Stops (fun key : Utf16Key => Utf16Key.compareText text key.asStr)
      (⟨text⟩ : Utf16Key) := by
    intro key
    rw [Utf16Key.compare_text_eq_iff]
    constructor
    · rintro rfl
      rfl
    · rintro rfl
      rfl
  have agrees : ∀ key : Utf16Key, Utf16Key.compareText text key.asStr = compare ⟨text⟩ key ↔
      ¬ Utf16Key.Misordered text key.asStr := by
    intro key
    rw [← Utf16Key.cmp_eq_compare, eq_comm, Utf16Key.cmp_eq_compare_text_iff]
  have found := SearchTree.search_found_iff _ ⟨text⟩ stops map.tree map.ordered
  simp only [agrees] at found
  exact found

end Utf16Map

/-- The comparison of three keys is a total order, the one of their code units, in which
only the same keys are equal. -/
structure TotalOrder (first second third : Utf16Key) : Prop where
  equal : first.cmp second = .eq ↔ first = second
  swapped : second.cmp first = (first.cmp second).swap
  transitive : first.cmp second ≠ .gt → second.cmp third ≠ .gt → first.cmp third ≠ .gt
  units : first.cmp second = .lt ↔ first.units < second.units

/-- What a map relies on in its keys: besides their total order, that the borrowed strings
are in the same order, so that a search by a string finds its key. -/
structure LawfulKey {ν : Type} (first second third : Utf16Key) (map : Utf16Map ν)
    (text : String) : Prop extends TotalOrder first second third where
  borrowed : first.cmp second = Utf16Key.compareText first.asStr second.asStr
  found : (map.getStr text).isSome = true ↔ map.Contains ⟨text⟩

/-- The order of keys is a total order on any three of them. -/
theorem total_order (first second third : Utf16Key) : TotalOrder first second third where
  equal := Utf16Key.cmp_eq_iff first second
  swapped := Utf16Key.compare_units_swap _ _
  transitive := by
    simp only [Utf16Key.cmp_eq_compare, compare_gt_iff_gt, ne_eq, not_lt]
    exact le_trans
  units := Utf16Key.lt_iff_units first second

/-- The keys are totally ordered by their code units. They are lawful exactly where this
order is that of the strings: on the two compared keys, and on the string that is sought
with every key on its way.

Proof: the order of the code units is linear, which gives the first part. A search by a string
goes wrong exactly at a key on its way that the two comparisons order differently. -/
theorem lawful_key_iff {ν : Type} (first second third : Utf16Key) (map : Utf16Map ν)
    (text : String) :
    TotalOrder first second third ∧
      (LawfulKey first second third map text ↔
        ¬ Utf16Key.Misordered first.asStr second.asStr ∧
          (map.Contains ⟨text⟩ → ∀ key ∈ map.tree.route ⟨text⟩,
            ¬ Utf16Key.Misordered text key.asStr)) := by
  refine ⟨total_order first second third, ?_⟩
  rw [← map.get_str_found_iff, ← Utf16Key.cmp_eq_compare_text_iff]
  constructor
  · exact fun lawful => ⟨lawful.borrowed, lawful.found⟩
  · exact fun ⟨borrowed, found⟩ => ⟨total_order first second third, borrowed, found⟩

/-- A key with surrogates, and one of the private use area. -/
def supplementary : Utf16Key := ⟨String.ofList [Char.ofNat 0x10000]⟩

/-- A key in the private use area, above all surrogates. -/
def privateUse : Utf16Key := ⟨String.ofList [Char.ofNat 0xE000]⟩

/-- A map with the two keys in one node. -/
def crossedMap : Utf16Map Unit where
  tree := .entry .empty supplementary () (.entry .empty privateUse () .empty)
  ordered := List.pairwise_pair.mpr (by decide)

/-- The two keys and their strings are ordered differently, and a search by the string of the
second does not find it in the map. The code unit of the one lies above the surrogates of the
other, while the code points compare the other way. -/
theorem private_use_not_found :
    crossedMap.Contains privateUse ∧ crossedMap.getStr privateUse.asStr = none ∧
      supplementary.cmp privateUse = .lt ∧
      Utf16Key.compareText supplementary.asStr privateUse.asStr = .gt ∧
      ¬ LawfulKey supplementary privateUse supplementary crossedMap privateUse.asStr := by
  have lost : crossedMap.getStr privateUse.asStr = none := by decide
  have present : crossedMap.Contains privateUse := ⟨(), by decide⟩
  refine ⟨present, lost, by decide, by decide, fun lawful => ?_⟩
  have found := lawful.found.mpr present
  rw [lost] at found
  cases found

end TrustGrant
