import TrustGrant.Rust.Serde
import Mathlib.Data.List.Count

/-!
# Reading rearranged objects

The members of an object may come in any order. Two values are rearrangements of one another
when their arrays agree item by item and their objects give every name the same values in the
same order. What serde reads does not depend on the arrangement: fields are looked up by their
names, and the entries of a map by their keys.
-/

namespace Library.JsonTree

/-- The values that members give a name, in their order. -/
def valuesOf (name : String) (members : List (String × JsonTree)) : List JsonTree :=
  (members.filter fun member => member.1 = name).map Prod.snd

/-- The first member contributes its value exactly when it has the name that is asked for. -/
theorem values_of_cons (name : String) (member : String × JsonTree)
    (members : List (String × JsonTree)) :
    valuesOf name (member :: members) =
      if member.1 = name then member.2 :: valuesOf name members else valuesOf name members := by
  by_cases named : member.1 = name <;> simp [valuesOf, named]

/-- The same value with the members of its objects in another order. Members of one name keep
their order. -/
inductive Rearranged : JsonTree → JsonTree → Prop
  | same (tree : JsonTree) : Rearranged tree tree
  | array (items others : List JsonTree) (paired : List.Forall₂ Rearranged items others) :
      Rearranged (.array items) (.array others)
  | object (members others : List (String × JsonTree))
      (paired : ∀ name, List.Forall₂ Rearranged (valuesOf name members) (valuesOf name others)) :
      Rearranged (.object members) (.object others)

/-- Members that give every name the same values, up to a rearrangement of each. -/
def MembersAlike (members others : List (String × JsonTree)) : Prop :=
  ∀ name, List.Forall₂ Rearranged (valuesOf name members) (valuesOf name others)

/-- Members are alike themselves, since every value is a rearrangement of itself. -/
theorem MembersAlike.refl (members : List (String × JsonTree)) : MembersAlike members members :=
  fun _ => List.forall₂_same.mpr fun tree _ => .same tree

/-- Only null rearranges to null. An optional field is therefore absent on both sides or on
neither. -/
theorem Rearranged.is_null {tree other : JsonTree} (rearranged : Rearranged tree other) :
    tree.isNull = other.isNull := by
  cases rearranged <;> rfl

variable {members others : List (String × JsonTree)}

/-- A look-up finds the first value of a name. So look-ups are compared through the lists of
values. -/
theorem lookup_eq_head (name : String) (members : List (String × JsonTree)) :
    members.lookup name = (valuesOf name members).head? := by
  induction members with
  | nil => rfl
  | cons member rest inductionHypothesis =>
    rw [List.lookup_cons, values_of_cons]
    by_cases same : name = member.1
    · rw [if_pos same.symm, same, beq_self_eq_true, List.head?_cons]
    · rw [if_neg (Ne.symm same), beq_eq_false_iff_ne.mpr same, inductionHypothesis]

/-- A name is looked up alike. The values of a name are rearranged one by one and stand in the
same order. -/
theorem MembersAlike.lookup (alike : MembersAlike members others) (name : String) :
    Option.Rel Rearranged (members.lookup name) (others.lookup name) := by
  rw [lookup_eq_head, lookup_eq_head]
  have paired := alike name
  generalize valuesOf name members = values at paired
  generalize valuesOf name others = valuesToo at paired
  cases paired with
  | nil => exact .none
  | cons first _ => exact .some first

/-- A name occurs as often as it is given a value. So a repeated field is one in both
arrangements. -/
theorem count_name (name : String) (members : List (String × JsonTree)) :
    (members.map Prod.fst).count name = (valuesOf name members).length := by
  induction members with
  | nil => rfl
  | cons member rest inductionHypothesis =>
    rw [List.map_cons, values_of_cons]
    by_cases same : member.1 = name
    · rw [if_pos same, same, List.count_cons_self, inductionHypothesis, List.length_cons]
    · rw [if_neg same, List.count_cons_of_ne same, inductionHypothesis]

/-- Each name occurs as often. -/
theorem MembersAlike.names (alike : MembersAlike members others) :
    (members.map Prod.fst).Perm (others.map Prod.fst) := by
  rw [List.perm_iff_count]
  intro name
  rw [count_name, count_name, (alike name).length_eq]

/-- Members that agree one by one are alike. The induction is on the pairs, each of which
contributes to one name. -/
theorem members_alike_of_paired
    (paired : List.Forall₂ (fun member other => member.1 = other.1 ∧ Rearranged member.2 other.2)
      members others) : MembersAlike members others := by
  intro name
  induction paired with
  | nil => exact .nil
  | @cons member other members others both _ inductionHypothesis =>
    obtain ⟨sameName, rearranged⟩ := both
    rw [values_of_cons, values_of_cons, sameName]
    by_cases named : other.1 = name
    · rw [if_pos named, if_pos named]
      exact .cons rearranged inductionHypothesis
    · rw [if_neg named, if_neg named]
      exact inductionHypothesis

/-- A name that occurs once has at most one value. -/
theorem values_of_nodup (name : String) (distinct : (members.map Prod.fst).Nodup) :
    (valuesOf name members).length ≤ 1 := by
  rw [← count_name]
  exact List.nodup_iff_count_le_one.mp distinct name

/-- Where no name is repeated, members may come in any order. Each name has one value at most, so
a permutation of its values changes nothing. -/
theorem alike_of_perm (permuted : members.Perm others)
    (distinct : (members.map Prod.fst).Nodup) : MembersAlike members others := by
  intro name
  have samePerm : (valuesOf name members).Perm (valuesOf name others) :=
    (permuted.filter _).map Prod.snd
  have short := values_of_nodup name distinct
  have same : valuesOf name members = valuesOf name others := by
    generalize valuesOf name members = values at samePerm short
    match values, short with
    | [], _ => exact (List.nil_perm.mp samePerm).symm
    | [value], _ => exact List.singleton_perm.mp samePerm
  rw [← same]
  exact List.forall₂_same.mpr fun tree _ => .same tree

end Library.JsonTree

namespace Rust.Serde

open Library JsonTree

variable {α : Type}

/-- What is read does not depend on the order of members. -/
def OrderFree (read : JsonTree → Option α) : Prop :=
  ∀ tree other, Rearranged tree other → read tree = read other

/-- A boolean has no members. -/
theorem bool_order_free : OrderFree readBool := by
  intro tree other rearranged
  cases rearranged <;> rfl

/-- A string has no members. -/
theorem string_order_free : OrderFree readString := by
  intro tree other rearranged
  cases rearranged <;> rfl

/-- A number has no members, whatever its width. -/
theorem u8_order_free : OrderFree readU8 := by
  intro tree other rearranged
  cases rearranged <;> rfl

/-- The same for the version numbers of sixteen bits. -/
theorem u16_order_free : OrderFree readU16 := by
  intro tree other rearranged
  cases rearranged <;> rfl

/-- The same for counters and limits. -/
theorem u64_order_free : OrderFree readU64 := by
  intro tree other rearranged
  cases rearranged <;> rfl

/-- A value that is read from a text depends on that text only. -/
theorem text_order_free (fromStr : String → Option α) : OrderFree (readText fromStr) := by
  intro tree other rearranged
  rw [readText, readText, string_order_free tree other rearranged]

/-- A reader of enumerations reads no object but those with one member. A rearrangement keeps the
number of members, and a single member keeps its name. -/
theorem single_order_free {read : JsonTree → Option α}
    (single : ∀ member counterpart : String × JsonTree, member.1 = counterpart.1 →
      Rearranged member.2 counterpart.2 → read (.object [member]) = read (.object [counterpart]))
    (otherwise : ∀ members, members.length ≠ 1 → read (.object members) = none)
    {members others : List (String × JsonTree)} (alike : MembersAlike members others) :
    read (.object members) = read (.object others) := by
  have names := alike.names
  have sameLength := names.length_eq
  rw [List.length_map, List.length_map] at sameLength
  by_cases alone : members.length = 1
  · obtain ⟨member, rfl⟩ := List.length_eq_one_iff.mp alone
    obtain ⟨counterpart, rfl⟩ := List.length_eq_one_iff.mp (sameLength.symm.trans alone)
    have sameName : member.1 = counterpart.1 := List.singleton_perm_singleton.mp names
    have values := alike counterpart.1
    rw [values_of_cons, values_of_cons, if_pos sameName, if_pos rfl] at values
    exact single member counterpart sameName (List.forall₂_cons.mp values).1
  · rw [otherwise members alone, otherwise others (sameLength ▸ alone)]

/-- The object form of a variant without data: its only member is named after the variant and is
null. -/
theorem read_variant_single (variants : List (String × α)) (member : String × JsonTree) :
    readVariant variants (.object [member]) =
      if member.2.isNull then variants.lookup member.1 else none := by
  obtain ⟨name, tree⟩ := member
  cases tree <;> rfl

/-- An object with no member or with several names no variant. It is an error in every
arrangement. -/
theorem read_variant_otherwise (variants : List (String × α)) (members : List (String × JsonTree))
    (notAlone : members.length ≠ 1) : readVariant variants (.object members) = none := by
  unfold readVariant
  split
  · rename_i isString
    cases isString
  · rename_i isObject
    cases isObject
    exact absurd rfl notAlone
  · rfl

/-- A variant is read from its name or from an object with one member, neither of which leaves an
order to choose. -/
theorem variant_order_free (variants : List (String × α)) : OrderFree (readVariant variants) := by
  intro tree other rearranged
  cases rearranged with
  | same => rfl
  | array => rfl
  | object members others paired =>
    refine single_order_free (fun member counterpart sameName rearranged => ?_)
      (read_variant_otherwise variants) paired
    rw [read_variant_single, read_variant_single, sameName, rearranged.is_null]

variable {read : JsonTree → Option α}

/-- The items of an array keep their places, so an array is read alike when its items are. The
induction is on the pairs of items. -/
theorem vec_order_free (law : OrderFree read) : OrderFree (readVec read) := by
  intro tree other rearranged
  cases rearranged with
  | same => rfl
  | array items others paired =>
    rw [readVec, readVec]
    induction paired with
    | nil => rfl
    | cons first _ inductionHypothesis =>
      rw [List.mapM_cons, List.mapM_cons, law _ _ first, inductionHypothesis]
  | object => rfl

/-- Null is kept by a rearrangement, and anything else is read by the inner reader. -/
theorem option_order_free (law : OrderFree read) : OrderFree (readOption read) := by
  intro tree other rearranged
  rw [readOption, readOption, rearranged.is_null, law tree other rearranged]

section Maps

variable {κ : Type} [LinearOrder κ] {key : String → κ} {members others : List (String × JsonTree)}

/-- A member occurs exactly when its value is among those of its name. The list of values forgets
the positions, which is what rearrangement ignores. -/
theorem mem_values_of (member : String × JsonTree) :
    member ∈ members ↔ member.2 ∈ valuesOf member.1 members := by
  constructor
  · exact fun inside => List.mem_map_of_mem (List.mem_filter.mpr ⟨inside, decide_eq_true rfl⟩)
  · intro listed
    obtain ⟨other, kept, sameValue⟩ := List.mem_map.mp listed
    obtain ⟨inside, sameName⟩ := List.mem_filter.mp kept
    have same : other = member := Prod.ext (of_decide_eq_true sameName) sameValue
    exact same ▸ inside

/-- Each member has a counterpart. It is found among the values of its name. -/
theorem counterpart (alike : MembersAlike members others) :
    (∀ member ∈ members, ∃ other ∈ others, Rearranged member.2 other.2) ∧
      ∀ other ∈ others, ∃ member ∈ members, Rearranged member.2 other.2 := by
  constructor
  · intro member inside
    obtain ⟨tree, listed, rearranged⟩ := Results.paired_output (alike member.1) member.2
      ((mem_values_of member).mp inside)
    exact ⟨(member.1, tree), (mem_values_of _).mpr listed, rearranged⟩
  · intro other inside
    obtain ⟨tree, listed, rearranged⟩ := Results.paired_input (alike other.1) other.2
      ((mem_values_of other).mp inside)
    exact ⟨(other.1, tree), (mem_values_of _).mpr listed, rearranged⟩

/-- Members are read when each of them is. The induction is on the members. -/
theorem entries_of_read {κ : Type} (key : String → κ)
    (each : ∀ member ∈ members, ∃ value, read member.2 = some value) :
    ∃ entries, ReadEntries key read members entries := by
  induction members with
  | nil => exact ⟨[], .nil⟩
  | cons member rest inductionHypothesis =>
    obtain ⟨⟨value, isRead⟩, later⟩ := List.forall_mem_cons.mp each
    obtain ⟨entries, paired⟩ := inductionHypothesis later
    exact ⟨(key member.1, value) :: entries, .cons ⟨isRead, rfl⟩ paired⟩

/-- The entries of a key are read from the members of its name. Different names are different
keys, so no other member contributes. -/
theorem entries_of_name (apart : Function.Injective key) {entries : List (κ × α)}
    (paired : ReadEntries key read members entries) (name : String) :
    List.Forall₂ (fun tree entry => read tree = some entry.2 ∧ key name = entry.1)
      (valuesOf name members) (entries.filter fun entry => entry.1 = key name) := by
  unfold ReadEntries at paired
  induction paired with
  | nil => exact .nil
  | @cons member entry members entries both _ inductionHypothesis =>
    obtain ⟨isRead, ofName⟩ := both
    rw [values_of_cons, List.filter_cons]
    by_cases named : member.1 = name
    · have sameKey : entry.1 = key name := named ▸ ofName.symm
      rw [if_pos named, if_pos (decide_eq_true sameKey)]
      exact .cons ⟨isRead, sameKey.symm⟩ inductionHypothesis
    · have otherKey : entry.1 ≠ key name := fun same => named (apart (ofName.trans same))
      rw [if_neg named, if_neg (by simpa using otherKey)]
      exact inductionHypothesis

/-- Values that are read from trees that are paired by a relation are equal when the relation
makes them so. -/
theorem read_alike {β γ δ : Type} {related : β → γ → Prop} {first : β → δ → Prop}
    {second : γ → δ → Prop} {trees : List β} {treesToo : List γ} {results resultsToo : List δ}
    (paired : List.Forall₂ related trees treesToo) (each : List.Forall₂ first trees results)
    (eachToo : List.Forall₂ second treesToo resultsToo)
    (equal : ∀ tree treeToo result resultToo, related tree treeToo → first tree result →
      second treeToo resultToo → result = resultToo) : results = resultsToo := by
  induction paired generalizing results resultsToo with
  | nil =>
    cases each
    cases eachToo
    rfl
  | cons isPair _ inductionHypothesis =>
    cases each with
    | cons isFirst later =>
      cases eachToo with
      | cons isFirstToo laterToo =>
        rw [equal _ _ _ _ isPair isFirst isFirstToo, inductionHypothesis later laterToo]

omit [LinearOrder κ] in
/-- Every entry is of the key of some member. -/
theorem key_of_entry {entries : List (κ × α)} (paired : ReadEntries key read members entries)
    (entry : κ × α) (inside : entry ∈ entries) : ∃ name, key name = entry.1 := by
  obtain ⟨member, -, -, ofName⟩ := Results.paired_input paired entry inside
  exact ⟨member.1, ofName⟩

/-- Entries that are read from members that are alike are collected into one map. The map has the
last entry of each key, and the last values of a name are rearrangements of each other. -/
theorem collected_alike (apart : Function.Injective key) (law : OrderFree read)
    (alike : MembersAlike members others) {entries entriesToo : List (κ × α)}
    (paired : ReadEntries key read members entries)
    (pairedToo : ReadEntries key read others entriesToo) :
    SortedMap.ofEntries entries = SortedMap.ofEntries entriesToo := by
  refine SortedMap.of_entries_congr _ _ fun asked => ?_
  by_cases spelled : ∃ name, key name = asked
  · obtain ⟨name, rfl⟩ := spelled
    refine read_alike (alike name) (entries_of_name apart paired name)
      (entries_of_name apart pairedToo name) ?_
    rintro tree treeToo entry entryToo rearranged ⟨isRead, ofName⟩ ⟨isReadToo, ofNameToo⟩
    rw [law _ _ rearranged, isReadToo] at isRead
    exact Prod.ext (ofName.symm.trans ofNameToo) (Option.some.inj isRead).symm
  · have absent {listed : List (κ × α)} (named : ∀ entry ∈ listed, ∃ name, key name = entry.1) :
        (listed.filter fun entry => entry.1 = asked) = [] := by
      refine List.filter_eq_nil_iff.mpr fun entry inside same => spelled ?_
      rw [← of_decide_eq_true same]
      exact named entry inside
    rw [absent (key_of_entry paired), absent (key_of_entry pairedToo)]

/-- Members whose values are read among others are read when these are. So whether a map is read
depends on the values only. -/
theorem map_transferred {map : SortedMap κ α}
    (among : ∀ other ∈ others, ∃ member ∈ members, read other.2 = read member.2)
    (collected : ∀ entries entriesToo, ReadEntries key read members entries →
      ReadEntries key read others entriesToo →
        SortedMap.ofEntries entriesToo = SortedMap.ofEntries entries)
    (isRead : readMap key read (.object members) = some map) :
    readMap key read (.object others) = some map := by
  obtain ⟨_, entries, ⟨⟩, paired, rfl⟩ := read_map_some isRead
  obtain ⟨entriesToo, pairedToo⟩ : ∃ entriesToo, ReadEntries key read others entriesToo := by
    refine entries_of_read key fun other inside => ?_
    obtain ⟨member, memberInside, sameReading⟩ := among other inside
    obtain ⟨entry, -, both⟩ := Results.paired_output paired member memberInside
    exact ⟨entry.2, sameReading.trans both.1⟩
  rw [← collected entries entriesToo paired pairedToo, readMap]
  refine Option.map_eq_some_iff.mpr ⟨entriesToo, (mapM_some_iff _ _ _).mpr ?_, rfl⟩
  refine pairedToo.imp fun other entry both => ?_
  rw [both.1, Option.map_some, both.2]

/-- A map is read alike: members of one name keep their order, so the same one is the last. Both
that the map is read and what it contains carry over. -/
theorem map_order_free (apart : Function.Injective key) (law : OrderFree read) :
    OrderFree (readMap key read) := by
  intro tree other rearranged
  cases rearranged with
  | same => rfl
  | array => rfl
  | object members others paired =>
    have alike : MembersAlike members others := paired
    obtain ⟨forth, back⟩ := counterpart alike
    refine Option.ext fun map => ⟨?_, ?_⟩
    · refine map_transferred (fun other inside => ?_) fun _ _ paired pairedToo =>
        (collected_alike apart law alike paired pairedToo).symm
      obtain ⟨member, memberInside, rearranged⟩ := back other inside
      exact ⟨member, memberInside, (law _ _ rearranged).symm⟩
    · refine map_transferred (fun member inside => ?_) fun _ _ pairedToo paired =>
        collected_alike apart law alike paired pairedToo
      obtain ⟨other, otherInside, rearranged⟩ := forth member inside
      exact ⟨other, otherInside, law _ _ rearranged⟩

end Maps

section Fields

variable {members others : List (String × JsonTree)}

/-- A required field reads the first value of its name, which is the same up to a
rearrangement. -/
theorem required_alike (law : OrderFree read) (alike : MembersAlike members others)
    (name : String) : requiredField read name members = requiredField read name others := by
  have found := alike.lookup name
  unfold requiredField
  generalize members.lookup name = tree at found ⊢
  generalize others.lookup name = other at found ⊢
  cases found with
  | none => rfl
  | some rearranged => exact law _ _ rearranged

/-- An optional field is missing on both sides, or reads values that are the same up to a
rearrangement. -/
theorem optional_alike (law : OrderFree read) (alike : MembersAlike members others)
    (name : String) : optionalField read name members = optionalField read name others := by
  have found := alike.lookup name
  unfold optionalField
  generalize members.lookup name = tree at found ⊢
  generalize others.lookup name = other at found ⊢
  cases found with
  | none => rfl
  | some rearranged => exact option_order_free law _ _ rearranged

end Fields

/-- An array of fields names its items by their places. Its items may be rearranged in
themselves, but keep their places. -/
theorem zip_alike (fields : List String) {items others : List JsonTree}
    (paired : List.Forall₂ Rearranged items others) :
    MembersAlike (fields.zip items) (fields.zip others) := by
  refine members_alike_of_paired ?_
  induction paired generalizing fields with
  | nil =>
    rw [List.zip_nil_right]
    exact .nil
  | cons first _ inductionHypothesis =>
    cases fields with
    | nil => exact .nil
    | cons field fields => exact .cons ⟨rfl, first⟩ (inductionHypothesis fields)

/-- The members that are read for a structure are the same up to their order. An object is opened
under conditions on its names alone, and an array under one on its length. -/
theorem Shape.members_alike (shape : Shape) {tree other : JsonTree}
    (rearranged : Rearranged tree other) :
    Option.Rel MembersAlike (shape.members tree) (shape.members other) := by
  cases rearranged with
  | same =>
    cases shape.members tree with
    | none => exact .none
    | some members => exact .some (.refl members)
  | array items others paired =>
    rw [Shape.members, Shape.members, paired.length_eq]
    split
    · exact .some (zip_alike shape.fields paired)
    · exact .none
  | object members others paired =>
    have alike : MembersAlike members others := paired
    have single := (alike.names.filter fun name => name ∈ shape.fields).nodup_iff
    have known : (∀ name ∈ members.map Prod.fst, name ∈ shape.fields) ↔
        ∀ name ∈ others.map Prod.fst, name ∈ shape.fields :=
      forall_congr' fun name => imp_congr_left alike.names.mem_iff
    rw [Shape.members, Shape.members]
    simp only [single, known]
    split
    · exact .some alike
    · exact .none

/-- A structure is read alike when its fields are. Every reader of a structure is treated by this
rule. -/
theorem Shape.order_free (shape : Shape) {fill : List (String × JsonTree) → Option α}
    (opens : ∀ tree, read tree = (shape.members tree).bind fill)
    (filled : ∀ members others, MembersAlike members others → fill members = fill others) :
    OrderFree read := by
  intro tree other rearranged
  have opened := shape.members_alike rearranged
  rw [opens, opens]
  generalize shape.members tree = members at opened ⊢
  generalize shape.members other = others at opened ⊢
  cases opened with
  | none => rfl
  | some alike => exact filled _ _ alike

end Rust.Serde
