import TrustGrant.Library.JsonTree
import TrustGrant.Library.Results

/-!
# What serde derives for reading

`serde_json` hands a value to the `Deserialize` implementation that serde derives for its
type. A structure is read from an object, or from an array of its fields in their order. A
variant without data is read from its name, or from an object that gives its name the value
null.

A reader loses nothing on the values that it reads and that are plain: writing what was read
says the same again.
-/

namespace Rust.Serde

open Library

variable {α : Type}

/-- A structure as its attributes declare it. -/
structure Shape where
  fields : List String
  /-- `deny_unknown_fields` -/
  denyUnknownFields : Bool
  /-- How many of the last fields have the attribute `default`. -/
  defaulted : Nat

/-- The members that are read for a structure. A known field that is repeated is an error, and an
unknown one is skipped or refused as the type says. -/
def Shape.members (shape : Shape) : JsonTree → Option (List (String × JsonTree))
  | .object members =>
    if ((members.map Prod.fst).filter fun name => name ∈ shape.fields).Nodup ∧
        (shape.denyUnknownFields = true → ∀ name ∈ members.map Prod.fst, name ∈ shape.fields) then
      some members
    else none
  | .array items =>
    if items.length ≤ shape.fields.length ∧
        shape.fields.length ≤ items.length + shape.defaulted then
      some (shape.fields.zip items)
    else none
  | _ => none

/-- A field that must be there. -/
def requiredField (read : JsonTree → Option α) (name : String)
    (members : List (String × JsonTree)) : Option α :=
  (members.lookup name).bind read

/-- `Option<T>`: null is `None`. -/
def readOption (read : JsonTree → Option α) (tree : JsonTree) : Option (Option α) :=
  if tree.isNull then some none else (read tree).map some

/-- A field of type `Option<T>`, which is `None` when it is missing. -/
def optionalField (read : JsonTree → Option α) (name : String)
    (members : List (String × JsonTree)) : Option (Option α) :=
  match members.lookup name with
  | none => some none
  | some tree => readOption read tree

/-- `bool`: only the two literals, no number and no text. -/
def readBool : JsonTree → Option Bool
  | .bool value => some value
  | _ => none

/-- A number with a sign, a fraction or an exponent is no unsigned integer. -/
def readU8 : JsonTree → Option UInt8
  | .natural value => if value < UInt8.size then some (UInt8.ofNat value) else none
  | _ => none

/-- `u16`, as `readU8` with another bound. -/
def readU16 : JsonTree → Option UInt16
  | .natural value => if value < UInt16.size then some (UInt16.ofNat value) else none
  | _ => none

/-- `u64`. A larger natural number is an error, not rounded. -/
def readU64 : JsonTree → Option UInt64
  | .natural value => if value < UInt64.size then some (UInt64.ofNat value) else none
  | _ => none

/-- `String`: only a string, which has been unescaped with the rest of the text. -/
def readString : JsonTree → Option String
  | .string value => some value
  | _ => none

/-- A value that the type reads from its text. -/
def readText (fromStr : String → Option α) (tree : JsonTree) : Option α :=
  (readString tree).bind fromStr

/-- An enumeration whose variants have no data. -/
def readVariant (variants : List (String × α)) : JsonTree → Option α
  | .string name => variants.lookup name
  | .object [(name, .null)] => variants.lookup name
  | _ => none

/-- `Vec<T>` -/
def readVec (read : JsonTree → Option α) : JsonTree → Option (List α)
  | .array items => items.mapM read
  | _ => none

/-- `BTreeMap<K, V>`: a later member replaces an earlier one of its key. -/
def readMap {κ : Type} [LinearOrder κ] (key : String → κ) (read : JsonTree → Option α) :
    JsonTree → Option (SortedMap κ α)
  | .object members =>
    (members.mapM fun member => (read member.2).map fun value => (key member.1, value)).map
      SortedMap.ofEntries
  | _ => none

/-- Every value is plain. -/
def Anything (_ : JsonTree) : Prop := True

/-- A variant that is written as its name. -/
def PlainVariant : JsonTree → Prop
  | .string _ => True
  | _ => False

/-- An array each of whose items is plain. -/
def EveryItem (plain : JsonTree → Prop) : JsonTree → Prop
  | .array items => ∀ item ∈ items, plain item
  | _ => False

/-- No key is repeated. -/
def EveryEntry (plain : JsonTree → Prop) : JsonTree → Prop
  | .object members => (members.map Prod.fst).Nodup ∧ ∀ member ∈ members, plain member.2
  | _ => False

/-- A field is missing, null or plain. -/
def PlainMember (plain : JsonTree → Prop) : Option JsonTree → Prop
  | none => True
  | some tree => tree.isNull = true ∨ plain tree

/-- A structure that is written as an object, whose fields are plain and whose unknown
members, if the type ignores them, are null. -/
def Shape.Plain (shape : Shape) (plains : List (JsonTree → Prop)) : JsonTree → Prop
  | .object members =>
    (shape.denyUnknownFields = false →
      ∀ member ∈ members, member.1 ∉ shape.fields → member.2.isNull = true) ∧
      ∀ field ∈ shape.fields.zip plains, PlainMember field.2 (members.lookup field.1)
  | _ => False

/-- A list is read exactly when each of its items is. Stated as a relation of the two lists, for
which there are rules. -/
theorem mapM_some_iff {β : Type} (read : β → Option α) (items : List β) (results : List α) :
    items.mapM read = some results ↔
      List.Forall₂ (fun item result => read item = some result) items results := by
  induction items generalizing results with
  | nil => cases results <;> simp
  | cons item items inductionHypothesis =>
    cases results with
    | nil => simp [List.mapM_cons, Option.bind_eq_some_iff]
    | cons result results =>
      simp [List.mapM_cons, Option.bind_eq_some_iff, inductionHypothesis]

section Faithful

variable (respells : String → JsonTree → Json → Prop)

/-- What is read and written again says the same exactly when it is plain. -/
structure Faithful (read : JsonTree → Option α) (value : α → Json) (plain : JsonTree → Prop) :
    Prop where
  notNull : ∀ tree result, read tree = some result → tree.isNull = false
  same : ∀ tree result, read tree = some result →
    (tree.SameValue respells (value result) ↔ plain tree)

/-- Booleans lose nothing, and every tree that is read is plain. -/
theorem bool_faithful : Faithful respells readBool .bool Anything where
  notNull tree result accepted := by
    cases tree <;> first | rfl | cases accepted
  same tree result accepted := by
    cases tree <;> cases accepted
    exact ⟨fun _ => trivial, fun _ => rfl⟩

/-- Strings lose nothing. The spelling of a string is compared exactly here; names of members
that may be respelled are treated where structures are read. -/
theorem string_faithful : Faithful respells readString .string Anything where
  notNull tree result accepted := by
    cases tree <;> first | rfl | cases accepted
  same tree result accepted := by
    cases tree <;> cases accepted
    exact ⟨fun _ => trivial, fun _ => rfl⟩

/-- A number that is read as a natural number is written as that number. The types of integers
differ in their limits only. -/
theorem natural_faithful {read : JsonTree → Option α} {toNat : α → Nat}
    (exact : ∀ tree result, read tree = some result → tree = .natural (toNat result)) :
    Faithful respells read (fun value => .number (toNat value)) Anything where
  notNull tree result accepted := by
    rw [exact tree result accepted]
    rfl
  same tree result accepted := by
    rw [exact tree result accepted]
    exact ⟨fun _ => trivial, fun _ => rfl⟩

/-- A number that fits into the type is written as the natural number it was read from. Other
numbers are not read at all. -/
theorem u8_faithful :
    Faithful respells readU8 (fun value => .number value.toNat) Anything := by
  refine natural_faithful respells fun tree result accepted => ?_
  cases tree with
  | natural value =>
    obtain ⟨inside, isRead⟩ := Option.ite_none_right_eq_some.mp accepted
    rw [← Option.some.inj isRead, UInt8.toNat_ofNat_of_lt' inside]
  | _ => cases accepted

/-- The same for sixty-four bits. -/
theorem u64_faithful :
    Faithful respells readU64 (fun value => .number value.toNat) Anything := by
  refine natural_faithful respells fun tree result accepted => ?_
  cases tree with
  | natural value =>
    obtain ⟨inside, isRead⟩ := Option.ite_none_right_eq_some.mp accepted
    rw [← Option.some.inj isRead, UInt64.toNat_ofNat_of_lt' inside]
  | _ => cases accepted

/-- A variant is written as its name. It was plain exactly when it was read from its name and not
from an object. -/
theorem variant_faithful (variants : List (String × α)) (value : α → Json)
    (named : ∀ variant ∈ variants, value variant.2 = .string variant.1) :
    Faithful respells (readVariant variants) value PlainVariant where
  notNull tree result accepted := by
    cases tree <;> first | rfl | cases accepted
  same tree result accepted := by
    have written : ∀ name, variants.lookup name = some result → value result = .string name :=
      fun name found => named _ (JsonTree.mem_of_lookup name result variants found)
    unfold readVariant at accepted
    split at accepted
    · rw [written _ accepted]
      exact ⟨fun _ => trivial, fun _ => rfl⟩
    · rw [written _ accepted]
      exact ⟨fun same => same.elim, fun plain => plain.elim⟩
    · cases accepted

variable {respells} {read : JsonTree → Option α} {value : α → Json} {plain : JsonTree → Prop}

/-- A list loses nothing exactly when no item does. The proof pairs the items of the tree with
those that were read from them. -/
theorem vec_faithful (law : Faithful respells read value plain) :
    Faithful respells (readVec read) (fun items => .array (items.map value))
      (EveryItem plain) where
  notNull tree result accepted := by
    cases tree <;> first | rfl | cases accepted
  same tree result accepted := by
    cases tree with
    | array items =>
      have each := (mapM_some_iff read items result).mp accepted
      simp only [JsonTree.SameValue, JsonTree.same_items_iff, EveryItem]
      clear accepted
      induction each with
      | nil => simp
      | cons first _ inductionHypothesis =>
        rw [List.map_cons, List.forall₂_cons, law.same _ _ first, List.forall_mem_cons]
        exact and_congr_right fun _ => inductionHypothesis
    | _ => cases accepted

section Maps

variable {κ : Type} {key : String → κ} {spell : κ → String}
  {members : List (String × JsonTree)} {entries : List (κ × α)}

/-- The entries that are read for the members of an object. -/
def ReadEntries (key : String → κ) (read : JsonTree → Option α)
    (members : List (String × JsonTree)) (entries : List (κ × α)) : Prop :=
  List.Forall₂ (fun member entry => read member.2 = some entry.2 ∧ key member.1 = entry.1)
    members entries

/-- A map is read only from an object, by collecting the entries that are read from its
members. -/
theorem read_map_some [LinearOrder κ] {tree : JsonTree} {map : SortedMap κ α}
    (accepted : readMap key read tree = some map) :
    ∃ members entries, tree = .object members ∧ ReadEntries key read members entries ∧
      map = .ofEntries entries := by
  cases tree with
  | object members =>
    obtain ⟨entries, each, rfl⟩ := Option.map_eq_some_iff.mp accepted
    have paired := (mapM_some_iff (fun member : String × JsonTree =>
      (read member.2).map fun value => (key member.1, value)) members entries).mp each
    refine ⟨members, entries, rfl, paired.imp fun member entry readMember => ?_, rfl⟩
    obtain ⟨value, readValue, rfl⟩ := Option.map_eq_some_iff.mp readMember
    exact ⟨readValue, rfl⟩
  | _ => cases accepted

/-- Keys are repeated exactly when the names they are read from are. A key is spelled as its
name, so it determines the name. -/
theorem read_entries_nodup (spelled : ∀ name, spell (key name) = name)
    (paired : ReadEntries key read members entries) :
    (entries.map Prod.fst).Nodup ↔ (members.map Prod.fst).Nodup := by
  have sameKeys : List.Forall₂ (· = ·) ((members.map Prod.fst).map key)
      (entries.map Prod.fst) := by
    rw [List.map_map, List.forall₂_map_left_iff, List.forall₂_map_right_iff]
    exact paired.imp fun _ _ both => both.2
  rw [List.forall₂_eq_eq_eq] at sameKeys
  rw [← sameKeys, List.nodup_map_iff (Function.LeftInverse.injective spelled)]

/-- An entry says the same as the member it is read from. Names are not repeated, so a look-up by
the spelling of the key finds this member. -/
theorem read_entries_same (spelled : ∀ name, spell (key name) = name)
    (law : Faithful respells read value plain)
    (apart : ∀ name tree result, read tree = some result → ¬ respells name tree (value result))
    (distinct : (members.map Prod.fst).Nodup) (paired : ReadEntries key read members entries) :
    (∀ entry ∈ entries, JsonTree.SameMember respells (spell entry.1, value entry.2)
        (members.lookup (spell entry.1))) ↔
      ∀ member ∈ members, plain member.2 := by
  have each : ∀ member ∈ members, ∀ entry : κ × α,
      read member.2 = some entry.2 ∧ key member.1 = entry.1 →
      (JsonTree.SameMember respells (spell entry.1, value entry.2)
        (members.lookup (spell entry.1)) ↔ plain member.2) := by
    intro member inside entry both
    rw [← both.2, spelled, JsonTree.lookup_of_mem member.1 member.2 members distinct inside,
      JsonTree.SameMember, law.notNull _ _ both.1, if_neg Bool.false_ne_true,
      or_iff_left (apart _ _ _ both.1), law.same _ _ both.1]
  constructor
  · intro same member inside
    obtain ⟨entry, entryInside, both⟩ := Results.paired_output paired member inside
    exact (each member inside entry both).mp (same entry entryInside)
  · intro plains entry entryInside
    obtain ⟨member, inside, both⟩ := Results.paired_input paired entry entryInside
    exact (each member inside entry both).mpr (plains member inside)

/-- A map loses nothing exactly when no key is repeated and its values lose nothing. When keys
are distinct the entries are those of the members, in another order; when one is repeated the map
has fewer entries than the object has members that are not null. -/
theorem map_faithful [LinearOrder κ] (spelled : ∀ name, spell (key name) = name)
    (law : Faithful respells read value plain) (written : ∀ result, value result ≠ .null)
    (apart : ∀ name tree result, read tree = some result → ¬ respells name tree (value result)) :
    Faithful respells (readMap key read)
      (fun map => .object (map.entries.map fun entry => (spell entry.1, value entry.2)))
      (EveryEntry plain) where
  notNull tree result accepted := by
    cases tree <;> first | rfl | cases accepted
  same tree result accepted := by
    obtain ⟨members, entries, rfl, paired, rfl⟩ := read_map_some accepted
    rw [JsonTree.SameValue, EveryEntry]
    by_cases distinct : (members.map Prod.fst).Nodup
    · have distinctKeys := (read_entries_nodup spelled paired).mpr distinct
      have collected := SortedMap.of_entries_perm entries distinctKeys
      have names : (((SortedMap.ofEntries entries).entries.map
          fun entry => (spell entry.1, value entry.2)).map Prod.fst).Perm
          (members.map Prod.fst) := by
        rw [List.map_map]
        refine (collected.map _).trans (List.Perm.of_eq ?_)
        rw [← List.forall₂_eq_eq_eq, List.forall₂_map_left_iff, List.forall₂_map_right_iff]
        refine paired.flip.imp fun entry member both => ?_
        rw [Function.comp_apply, ← both.2, spelled]
      rw [and_iff_right distinct, ← read_entries_same spelled law apart distinct paired,
        JsonTree.same_members_iff respells members _ (names.nodup_iff.mpr distinct)
          (distinct.filter _), JsonTree.AgreeByName, and_iff_right, List.forall_mem_map]
      · exact forall_congr' fun entry => imp_congr_left collected.mem_iff
      · intro member inside absent
        exact absurd (names.mem_iff.mpr (List.mem_map_of_mem inside)) absent
    · rw [iff_false_right (not_and_of_not_left _ distinct)]
      intro same
      have readNotNull : ∀ member ∈ members, member.2.isNull = false := by
        intro member inside
        obtain ⟨entry, _, both⟩ := Results.paired_output paired member inside
        exact law.notNull _ _ both.1
      have sameLength := JsonTree.same_members_length respells members _ readNotNull
        (List.forall_mem_map.mpr fun entry _ => written entry.2) same
      rw [List.length_map, paired.length_eq] at sameLength
      exact distinct ((read_entries_nodup spelled paired).mp
        ((SortedMap.of_entries_len_eq_iff entries).mp sameLength.symm))

end Maps

/-- A field that was read says the same as the written one exactly when it is plain. It is there,
as it was read, so a missing member is no case. -/
theorem required_same (law : Faithful respells read value plain) {name : String}
    {members : List (String × JsonTree)} {result : α}
    (apart : ∀ tree written, ¬ respells name tree written)
    (accepted : requiredField read name members = some result) :
    JsonTree.SameMember respells (name, value result) (members.lookup name) ↔
      PlainMember plain (members.lookup name) := by
  obtain ⟨tree, found, readTree⟩ := Option.bind_eq_some_iff.mp accepted
  rw [found, JsonTree.SameMember, PlainMember, law.notNull tree result readTree,
    if_neg Bool.false_ne_true, or_iff_left (apart _ _), law.same tree result readTree]
  simp

/-- An absent field is null when it is written. A missing member, a null and a value that is
plain are the three cases. -/
theorem optional_same (law : Faithful respells read value plain) {name : String}
    {members : List (String × JsonTree)} {result : Option α}
    (apart : ∀ tree written, ¬ respells name tree written)
    (accepted : optionalField read name members = some result) :
    JsonTree.SameMember respells (name, result.elim .null value) (members.lookup name) ↔
      PlainMember plain (members.lookup name) := by
  unfold optionalField readOption at accepted
  cases found : members.lookup name with
  | none =>
    rw [found] at accepted
    cases accepted
    exact ⟨fun _ => trivial, fun _ => rfl⟩
  | some tree =>
    rw [found] at accepted
    simp only at accepted
    split at accepted
    · rename_i isNull
      cases accepted
      simp only [JsonTree.SameMember, PlainMember, isNull, if_true, true_or, Option.elim_none]
    · rename_i notNull
      obtain ⟨inner, readTree, rfl⟩ := Option.map_eq_some_iff.mp accepted
      simp only [JsonTree.SameMember, PlainMember, notNull, Bool.false_eq_true, if_false,
        false_or, Option.elim_some, or_iff_left (apart _ _), law.same tree inner readTree]

/-- A field that respells what it reads says the same. Any spelling that is read is allowed
here. -/
theorem required_respelled {name : String} {members : List (String × JsonTree)} {result : α}
    (respelled : ∀ tree, read tree = some result →
      tree.isNull = false ∧ respells name tree (value result))
    (accepted : requiredField read name members = some result) :
    JsonTree.SameMember respells (name, value result) (members.lookup name) ↔
      PlainMember Anything (members.lookup name) := by
  obtain ⟨tree, found, readTree⟩ := Option.bind_eq_some_iff.mp accepted
  obtain ⟨notNull, same⟩ := respelled tree readTree
  rw [found, JsonTree.SameMember, PlainMember, notNull, if_neg Bool.false_ne_true]
  exact ⟨fun _ => .inr trivial, fun _ => .inr same⟩

/-- The members of a structure say what is written exactly when each field is plain and no
unknown member says anything. Unknown members can only be there when the type does not deny
them. -/
theorem Shape.same_iff (shape : Shape) {tree : JsonTree} {members : List (String × JsonTree)}
    {values : List (String × Json)} {plains : List (JsonTree → Prop)}
    (distinct : shape.fields.Nodup) (opened : shape.members tree = some members)
    (named : values.map Prod.fst = shape.fields)
    (each : List.Forall₂ (fun written plain =>
      JsonTree.SameMember respells written (members.lookup written.1) ↔
        PlainMember plain (members.lookup written.1)) values plains) :
    tree.SameValue respells (.object values) ↔ shape.Plain plains tree := by
  cases tree with
  | object all =>
    obtain ⟨⟨single, strict⟩, kept⟩ := Option.ite_none_right_eq_some.mp opened
    obtain rfl : all = members := Option.some.inj kept
    rw [← named] at distinct single
    rw [JsonTree.SameValue, JsonTree.same_members_iff respells all values distinct single,
      JsonTree.AgreeByName, Shape.Plain, named]
    refine and_congr ?_ ?_
    · constructor
      · exact fun unknown _ => unknown
      · intro unknown member inside absent
        cases denied : shape.denyUnknownFields with
        | true => exact absurd (strict denied member.1 (List.mem_map_of_mem inside)) absent
        | false => exact unknown denied member inside absent
    · rw [← named]
      clear named opened distinct single strict kept
      induction each with
      | nil => simp
      | cons first _ inductionHypothesis =>
        rw [List.map_cons, List.zip_cons_cons, List.forall_mem_cons, List.forall_mem_cons, first,
          inductionHypothesis]
  | array items => exact ⟨fun same => same.elim, fun plain => plain.elim⟩
  | _ => cases opened

/-- What opens as a structure is an object or an array. -/
theorem Shape.not_null (shape : Shape) {tree : JsonTree} {members : List (String × JsonTree)}
    (opened : shape.members tree = some members) : tree.isNull = false := by
  cases tree <;> first | rfl | cases opened

/-- A structure loses nothing exactly when its fields do not. This is the rule by which every
reader of a structure is treated. -/
theorem Shape.faithful (shape : Shape) (distinct : shape.fields.Nodup)
    (plains : List (JsonTree → Prop))
    (fields : ∀ tree result, read tree = some result → ∃ members values,
      shape.members tree = some members ∧ value result = .object values ∧
        values.map Prod.fst = shape.fields ∧
        List.Forall₂ (fun written plain =>
          JsonTree.SameMember respells written (members.lookup written.1) ↔
            PlainMember plain (members.lookup written.1)) values plains) :
    Faithful respells read value (shape.Plain plains) where
  notNull tree result accepted := by
    obtain ⟨members, values, opened, _⟩ := fields tree result accepted
    exact shape.not_null opened
  same tree result accepted := by
    obtain ⟨members, values, opened, shown, named, each⟩ := fields tree result accepted
    rw [shown]
    exact shape.same_iff distinct opened named each

end Faithful

end Rust.Serde
