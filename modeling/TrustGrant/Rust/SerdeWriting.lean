import TrustGrant.Rust.Serde

/-!
# Reading what serde writes

A value that serde writes is read back as the value when its parts are: a structure by its
fields, a list by its items, a map by its entries. A field of an optional type may be written as
null or left out.
-/

namespace Library.Json

mutual

/-- The value as it is read. -/
def toTree : Json → JsonTree
  | .null => .null
  | .bool value => .bool value
  | .number value => .natural value
  | .string value => .string value
  | .array items => .array (toTrees items)
  | .object members => .object (toMembers members)

/-- The items of a written array, one by one. -/
def toTrees : List Json → List JsonTree
  | [] => []
  | item :: items => item.toTree :: toTrees items

/-- The members of a written object, in the order in which they are written. -/
def toMembers : List (String × Json) → List (String × JsonTree)
  | [] => []
  | (name, value) :: members => (name, value.toTree) :: toMembers members

end

/-- The recursion over items is a map, so that lemmas about lists apply. -/
theorem to_trees_eq_map (items : List Json) : toTrees items = items.map toTree := by
  induction items with
  | nil => rfl
  | cons item items inductionHypothesis => rw [toTrees, List.map_cons, inductionHypothesis]

/-- The recursion over members is a map that keeps the names. -/
theorem to_members_eq_map (members : List (String × Json)) :
    toMembers members = members.map fun member => (member.1, member.2.toTree) := by
  induction members with
  | nil => rfl
  | cons member members inductionHypothesis =>
    rw [toMembers, List.map_cons, inductionHypothesis]

/-- A member is found by its name as it was written. What is found is the tree of the value that
was written. -/
theorem lookup_to_members (name : String) (members : List (String × Json)) :
    (toMembers members).lookup name = (members.lookup name).map toTree := by
  induction members with
  | nil => rfl
  | cons member members inductionHypothesis =>
    rw [toMembers, List.lookup_cons, List.lookup_cons]
    split
    · rfl
    · exact inductionHypothesis

end Library.Json

namespace Rust.Serde

open Library

variable {α : Type} {read : JsonTree → Option α} {value : α → Json}

/-- The item is read back from what is written for it, which is not null. -/
structure ReadBack (read : JsonTree → Option α) (value : α → Json) (item : α) : Prop where
  notNull : (value item).toTree.isNull = false
  reads : read (value item).toTree = some item

/-- A boolean that is written is read back. -/
theorem bool_read_back (item : Bool) : ReadBack readBool .bool item := ⟨rfl, rfl⟩

/-- A string that is written is read back. -/
theorem string_read_back (item : String) : ReadBack readString .string item := ⟨rfl, rfl⟩

/-- A number that is written fits where it came from. -/
theorem u8_read_back (item : UInt8) : ReadBack readU8 (fun item => .number item.toNat) item where
  notNull := rfl
  reads := by
    simp only [Json.toTree, readU8, if_pos (UInt8.toNat_lt item), UInt8.ofNat_toNat]

/-- The same for sixteen bits. -/
theorem u16_read_back (item : UInt16) :
    ReadBack readU16 (fun item => .number item.toNat) item where
  notNull := rfl
  reads := by
    simp only [Json.toTree, readU16, if_pos (UInt16.toNat_lt item), UInt16.ofNat_toNat]

/-- The same for sixty-four bits. -/
theorem u64_read_back (item : UInt64) :
    ReadBack readU64 (fun item => .number item.toNat) item where
  notNull := rfl
  reads := by
    simp only [Json.toTree, readU64, if_pos (UInt64.toNat_lt item), UInt64.ofNat_toNat]

/-- A value that is read from its text is read back from a text that is read as it. -/
theorem text_read_back {fromStr : String → Option α} {text : α → String} {item : α}
    (inverse : fromStr (text item) = some item) :
    ReadBack (readText fromStr) (fun item => .string (text item)) item where
  notNull := rfl
  reads := inverse

/-- A list is read back when each of its items is. -/
theorem vec_read_back {items : List α} (each : ∀ item ∈ items, ReadBack read value item) :
    ReadBack (readVec read) (fun items => .array (items.map value)) items where
  notNull := rfl
  reads := by
    rw [Json.toTree, Json.to_trees_eq_map, List.map_map, readVec, mapM_some_iff,
      List.forall₂_map_left_iff]
    exact List.forall₂_same.mpr fun item member => (each item member).reads

/-- A map is read back when its keys are spelled and its values are read back. Its keys are
distinct, so no member replaces another. -/
theorem map_read_back {κ : Type} [LinearOrder κ] {key : String → κ} {spell : κ → String}
    {map : SortedMap κ α} (spelled : ∀ name, key (spell name) = name)
    (each : ∀ entry ∈ map.entries, ReadBack read value entry.2) :
    ReadBack (readMap key read)
      (fun map => .object (map.entries.map fun entry => (spell entry.1, value entry.2))) map where
  notNull := rfl
  reads := by
    rw [Json.toTree, Json.to_members_eq_map, List.map_map, readMap]
    refine Option.map_eq_some_iff.mpr ⟨map.entries, ?_, SortedMap.of_entries_of_perm map
      map.entries (List.Perm.refl _)⟩
    rw [mapM_some_iff, List.forall₂_map_left_iff]
    refine List.forall₂_same.mpr fun entry member => ?_
    rw [Function.comp_apply, (each entry member).reads, Option.map_some, spelled]

/-- A reader that opens a structure reads back what is written as an object with some of its
fields, in their order, when it reads the fields back. -/
theorem Shape.read_back (shape : Shape) {fill : List (String × JsonTree) → Option α}
    {values : List (String × Json)} {item : α} (distinct : shape.fields.Nodup)
    (written : value item = .object values)
    (opens : ∀ tree, read tree = (shape.members tree).bind fill)
    (named : (values.map Prod.fst).Sublist shape.fields)
    (filled : fill (Json.toMembers values) = some item) : ReadBack read value item := by
  have names : (Json.toMembers values).map Prod.fst = values.map Prod.fst := by
    rw [Json.to_members_eq_map, List.map_map]
    rfl
  have opened : shape.members (Json.object values).toTree = some (Json.toMembers values) := by
    rw [Json.toTree, Shape.members, if_pos]
    rw [names]
    exact ⟨(distinct.sublist named).filter _, fun _ name present => named.subset present⟩
  refine ⟨?_, ?_⟩
  · rw [written]
    rfl
  · rw [opens, written, opened, Option.bind_some, filled]

/-- One more field is read back. -/
theorem field_read_back {β : Type} {result : β} {reading : Option α} {item : α}
    {continuation : α → Option β} (isRead : reading = some item)
    (rest : continuation item = some result) : reading.bind continuation = some result := by
  rw [isRead, Option.bind_some, rest]

/-- A required field is read back from the member that was written for it. -/
theorem required_read_back {name : String} {values : List (String × Json)} {item : α}
    (readBack : ReadBack read value item) (written : values.lookup name = some (value item)) :
    requiredField read name (Json.toMembers values) = some item := by
  rw [requiredField, Json.lookup_to_members, written]
  exact readBack.reads

/-- An optional field is read back from a member that is null when it is absent. A value that is
read back is not null, so the two cases do not mix. -/
theorem optional_read_back {name : String} {values : List (String × Json)} {item : Option α}
    (readBack : ∀ inner ∈ item, ReadBack read value inner)
    (written : values.lookup name = some (item.elim .null value)) :
    optionalField read name (Json.toMembers values) = some item := by
  rw [optionalField, Json.lookup_to_members, written]
  cases item with
  | none => rfl
  | some inner =>
    have inside := readBack inner rfl
    simp only [Option.map_some, Option.elim_some, readOption, inside.notNull, Bool.false_eq_true,
      if_false, inside.reads]

/-- An absent field is read from a member that is left out. -/
theorem omitted_read_back {name : String} {values : List (String × Json)}
    (omitted : values.lookup name = none) :
    optionalField read name (Json.toMembers values) = some none := by
  rw [optionalField, Json.lookup_to_members, omitted]
  rfl

end Rust.Serde
