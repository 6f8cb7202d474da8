import TrustGrant.Library.JsonSchema
import TrustGrant.Rust.Serde

/-!
# What a schema admits is read

A schema and a derived reader agree when every value that the schema admits is read, and is
plain. For a structure this is so when the schema knows no property but its fields, requires
each field that must be there, and agrees with the reader of each field.
-/

namespace Rust.Serde

open Library

variable {α : Type}

/-- A natural number that fits 64 bits and is written without fraction and exponent. -/
def isPlainInteger : JsonTree → Bool
  | .natural value => decide (value < UInt64.size)
  | _ => false

/-- A reader goes on with what its first part has read. -/
theorem read_next {β : Type} {first : Option β} {next : β → Option α} {value : β} {result : α}
    (isRead : first = some value) (rest : next value = some result) :
    first.bind next = some result := by
  rw [isRead, Option.bind_some, rest]

section Admission

variable (isDateTime : String → Bool)

/-- Whatever the schema admits is plain and is read. -/
def Agrees (schema : Schema) (read : JsonTree → Option α) (plain : JsonTree → Prop) : Prop :=
  ∀ tree, schema.valid isPlainInteger isDateTime tree = true →
    plain tree ∧ ∃ result, read tree = some result

/-- Whatever the schema admits is null, or is plain and is read. -/
def AgreesOption (schema : Schema) (read : JsonTree → Option α) (plain : JsonTree → Prop) :
    Prop :=
  ∀ tree, schema.valid isPlainInteger isDateTime tree = true →
    tree.isNull = true ∨ (plain tree ∧ ∃ result, read tree = some result)

variable {isDateTime} {schema : Schema} {read : JsonTree → Option α} {plain : JsonTree → Prop}

/-- A schema that agrees with a reader agrees with the reader of its option: the value is
there. -/
theorem Agrees.option (law : Agrees isDateTime schema read plain) :
    AgreesOption isDateTime schema read plain := fun tree isValid => .inr (law tree isValid)

/-- A nullable schema agrees with an option. Either the value is null, or the schema inside has
admitted it. -/
theorem Agrees.nullable (law : Agrees isDateTime schema read plain) :
    AgreesOption isDateTime schema.nullable read plain := by
  intro tree isValid
  rw [Schema.nullable_iff] at isValid
  exact isValid.imp_right (law tree)

/-- A schema for null alone agrees with any option. -/
theorem null_admitted (read : JsonTree → Option α) (plain : JsonTree → Prop) :
    AgreesOption isDateTime (.type [.null]) read plain := by
  intro tree isValid
  simp only [Schema.valid_type, List.mem_singleton, exists_eq_left] at isValid
  cases tree <;> first | exact .inl rfl | cases isValid

/-- The first of several schemas names one type. -/
theorem typed_of_valid {type : SchemaType} {rest : List Schema} {tree : JsonTree}
    (isValid : (Schema.allOf (.type [type] :: rest)).valid isPlainInteger isDateTime tree = true) :
    Schema.hasType isPlainInteger type tree = true ∧
      ∀ schema ∈ rest, schema.valid isPlainInteger isDateTime tree = true := by
  simpa only [Schema.valid_all_of, List.forall_mem_cons, Schema.valid_type, List.mem_singleton,
    exists_eq_left] using isValid

/-- What a schema of type boolean admits is read as a boolean. -/
theorem bool_admitted {rest : List Schema} :
    Agrees isDateTime (.allOf (.type [.boolean] :: rest)) readBool Anything := by
  intro tree isValid
  have isBool := (typed_of_valid isValid).1
  cases tree <;> first | exact ⟨trivial, _, rfl⟩ | cases isBool

/-- What a schema of type string admits is read as a string, whatever the rest of the schema
demands. -/
theorem string_admitted {rest : List Schema} :
    Agrees isDateTime (.allOf (.type [.string] :: rest)) readString Anything := by
  intro tree isValid
  have isString := (typed_of_valid isValid).1
  cases tree <;> first | exact ⟨trivial, _, rfl⟩ | cases isString

/-- An integer in plain notation that is no larger than a counter can hold is read. -/
theorem u64_read (tree : JsonTree) (isInteger : isPlainInteger tree = true) :
    ∃ result, readU64 tree = some result := by
  cases tree with
  | natural value => exact ⟨_, if_pos (of_decide_eq_true isInteger)⟩
  | _ => cases isInteger

/-- A schema of type integer agrees with the reader of counters, given how plain integers are
told. -/
theorem u64_admitted {rest : List Schema} :
    Agrees isDateTime (.allOf (.type [.integer] :: rest)) readU64 Anything :=
  fun tree isValid => ⟨trivial, u64_read tree (by
    have isInteger := (typed_of_valid isValid).1
    cases tree <;> exact isInteger)⟩

/-- The constant zero fits one byte. This is how the version of a document is read. -/
theorem u8_zero_admitted {types : List SchemaType} :
    Agrees isDateTime (.allOf [.type types, .const (.natural 0)]) readU8 Anything := by
  intro tree isValid
  simp only [Schema.valid_all_of, List.forall_mem_cons] at isValid
  have isZero := isValid.2.1
  rw [Schema.valid] at isZero
  cases tree with
  | natural value =>
    have zero : 0 = value := of_decide_eq_true isZero
    exact ⟨trivial, _, if_pos (zero ▸ by decide)⟩
  | _ => cases isZero

/-- A boolean or null agrees with an optional boolean. A null member is read as an absent
value. -/
theorem optional_bool_admitted :
    AgreesOption isDateTime (.type [.boolean, .null]) readBool Anything := by
  intro tree isValid
  simp only [Schema.valid_type, List.mem_cons, List.not_mem_nil, or_false, exists_eq_or_imp,
    exists_eq_left] at isValid
  cases tree with
  | null => exact .inl rfl
  | bool value => exact .inr ⟨trivial, _, rfl⟩
  | _ => rcases isValid with isBool | isNull <;> contradiction

/-- An integer or null agrees with an optional counter. That the integer fits is among the
keywords, so the reader does not fail on it. -/
theorem optional_u64_admitted {rest : List Schema} :
    AgreesOption isDateTime (.allOf (.type [.integer, .null] :: rest)) readU64 Anything := by
  intro tree isValid
  rw [Schema.valid_all_of, List.forall_mem_cons] at isValid
  have isLimit := isValid.1
  simp only [Schema.valid_type, List.mem_cons, List.not_mem_nil, or_false, exists_eq_or_imp,
    exists_eq_left] at isLimit
  rcases isLimit with isInteger | isNull
  · exact .inr ⟨trivial, u64_read tree (by cases tree <;> exact isInteger)⟩
  · cases tree <;> first | exact .inl rfl | cases isNull

/-- Every name that a schema lists is a variant. The schema may list fewer names than the type
has. -/
theorem variant_admitted {variants : List (String × α)} {names : List String}
    (known : ∀ name ∈ names, (variants.lookup name).isSome = true) :
    Agrees isDateTime (.oneText names) (readVariant variants) PlainVariant := by
  intro tree isValid
  simp only [Schema.oneText, Schema.valid_all_of, List.forall_mem_cons] at isValid
  have isName := isValid.2.1
  simp only [Schema.valid, List.any_eq_true, List.mem_map] at isName
  obtain ⟨_, ⟨name, inside, rfl⟩, same⟩ := isName
  cases tree with
  | string text =>
    obtain rfl : name = text := of_decide_eq_true same
    exact ⟨trivial, Option.isSome_iff_exists.mp (known name inside)⟩
  | _ => cases same

/-- A schema of date-times agrees with a reader of texts that accepts every date-time. What
counts as one is left to the schema. -/
theorem text_admitted {fromStr : String → Option α}
    (reads : ∀ text, isDateTime text = true → (fromStr text).isSome = true) :
    Agrees isDateTime .timeStamp (readText fromStr) Anything := by
  intro tree isValid
  obtain ⟨isString, others⟩ := typed_of_valid isValid
  have isStamp := others .dateTime List.mem_cons_self
  cases tree with
  | string text =>
    rw [Schema.valid] at isStamp
    exact ⟨trivial, Option.isSome_iff_exists.mp (reads text isStamp)⟩
  | _ => cases isString

/-- An array of admitted items is read item by item. The induction is on the items. -/
theorem items_read (law : Agrees isDateTime schema read plain) (items : List JsonTree)
    (each : ∀ item ∈ items, schema.valid isPlainInteger isDateTime item = true) :
    ∃ results, items.mapM read = some results := by
  induction items with
  | nil => exact ⟨[], rfl⟩
  | cons item items inductionHypothesis =>
    obtain ⟨first, rest⟩ := List.forall_mem_cons.mp each
    obtain ⟨_, result, readItem⟩ := law item first
    obtain ⟨results, readItems⟩ := inductionHypothesis rest
    exact ⟨result :: results, by simp [List.mapM_cons, readItem, readItems]⟩

/-- A schema of arrays agrees with the reader of lists when its schema of items agrees with the
reader of items. -/
theorem vec_admitted {rest : List Schema} (law : Agrees isDateTime schema read plain)
    (listed : Schema.items schema ∈ rest) :
    Agrees isDateTime (.allOf (.type [.array] :: rest)) (readVec read) (EveryItem plain) := by
  intro tree isValid
  obtain ⟨isArray, others⟩ := typed_of_valid isValid
  have each := others _ listed
  cases tree with
  | array items =>
    simp only [Schema.valid, List.all_eq_true] at each
    exact ⟨fun item inside => (law item (each item inside)).1, items_read law items each⟩
  | _ => cases isArray

/-- An object of admitted members is read member by member. The names become keys by the function
of the map. -/
theorem entries_read {κ : Type} (key : String → κ) (law : Agrees isDateTime schema read plain)
    (members : List (String × JsonTree))
    (each : ∀ member ∈ members, schema.valid isPlainInteger isDateTime member.2 = true) :
    ∃ entries, (members.mapM fun member =>
      (read member.2).map fun value => (key member.1, value)) = some entries := by
  induction members with
  | nil => exact ⟨[], rfl⟩
  | cons member members inductionHypothesis =>
    obtain ⟨first, rest⟩ := List.forall_mem_cons.mp each
    obtain ⟨_, result, readMember⟩ := law member.2 first
    obtain ⟨entries, readMembers⟩ := inductionHypothesis rest
    exact ⟨(key member.1, result) :: entries, by simp [List.mapM_cons, readMember, readMembers]⟩

/-- A map whose names are not repeated. The schema asks for an object, whose names an admitted
value does not repeat, and for a schema of every member. -/
theorem map_admitted {κ : Type} [LinearOrder κ] (key : String → κ)
    (law : Agrees isDateTime schema read plain) :
    Agrees isDateTime (.allOf [.type [.object], .properties [] schema]) (readMap key read)
      (EveryEntry plain) := by
  intro tree isValid
  obtain ⟨isObject, others⟩ := typed_of_valid isValid
  have each := others _ List.mem_cons_self
  cases tree with
  | object members =>
    simp only [Schema.valid, Schema.validProperty, List.all_eq_true] at each
    obtain ⟨entries, readEntries⟩ := entries_read key law members each
    exact ⟨⟨of_decide_eq_true isObject, fun member inside => (law _ (each member inside)).1⟩,
      _, by rw [readMap, readEntries, Option.map_some]⟩
  | _ => cases isObject

/-- The members that a structure is read from have the required names and the schemas of
their names. -/
structure Admitted (isDateTime : String → Bool) (shape : Shape) (names : List String)
    (schemas : List (String × Schema)) (members : List (String × JsonTree)) : Prop where
  opened : shape.members (.object members) = some members
  known : ∀ member ∈ members, member.1 ∈ shape.fields
  present : ∀ name ∈ names, ∃ tree, members.lookup name = some tree
  typed : ∀ name tree schema, members.lookup name = some tree →
    schemas.lookup name = some schema → schema.valid isPlainInteger isDateTime tree = true

/-- An object schema that knows only the fields of a structure admits objects whose members are
those of the structure: the required ones are there, and each has the schema of its name. -/
theorem admitted_of_valid (shape : Shape) {names : List String} {schemas : List (String × Schema)}
    {tree : JsonTree}
    (isValid : (Schema.object names schemas).valid isPlainInteger isDateTime tree = true)
    (fields : ∀ property ∈ schemas, property.1 ∈ shape.fields) :
    ∃ members, tree = .object members ∧ Admitted isDateTime shape names schemas members := by
  obtain ⟨members, rfl, distinct, present, typed⟩ :=
    Schema.valid_object isPlainInteger isDateTime names schemas tree isValid
  have known : ∀ member ∈ members, member.1 ∈ shape.fields := by
    intro member inside
    obtain ⟨schema, found, _⟩ := typed member inside
    exact fields _ (JsonTree.mem_of_lookup member.1 schema schemas found)
  refine ⟨members, rfl, ?_, known, fun name listed => ?_, fun name tree schema found its => ?_⟩
  · exact if_pos ⟨distinct.filter _, fun _ => List.forall_mem_map.mpr known⟩
  · obtain ⟨⟨_, tree⟩, inside, rfl⟩ := List.mem_map.mp (present name listed)
    exact ⟨tree, JsonTree.lookup_of_mem _ tree members distinct inside⟩
  · obtain ⟨other, same, isValid⟩ :=
      typed (name, tree) (JsonTree.mem_of_lookup name tree members found)
    obtain rfl : other = schema := Option.some.inj (same.symm.trans its)
    exact isValid

section Fields

variable {shape : Shape} {names : List String} {schemas : List (String × Schema)}
  {members : List (String × JsonTree)} {name : String}

/-- A field that the schema requires is there, so it is read. Its value is admitted by the schema
of the property. -/
theorem required_member (present : ∃ tree, members.lookup name = some tree)
    (law : ∀ tree, members.lookup name = some tree →
      plain tree ∧ ∃ result, read tree = some result) :
    ∃ result, requiredField read name members = some result ∧
      PlainMember plain (members.lookup name) := by
  obtain ⟨tree, found⟩ := present
  obtain ⟨isPlain, result, readTree⟩ := law tree found
  refine ⟨result, ?_, ?_⟩
  · rw [requiredField, found, Option.bind_some, readTree]
  · rw [found]
    exact .inr isPlain

/-- A field that the schema does not require is missing, null, or read. The first two are the
absent value. -/
theorem optional_member (law : ∀ tree, members.lookup name = some tree →
      tree.isNull = true ∨ (plain tree ∧ ∃ result, read tree = some result)) :
    ∃ result, optionalField read name members = some result ∧
      PlainMember plain (members.lookup name) := by
  unfold optionalField readOption
  cases found : members.lookup name with
  | none => exact ⟨none, rfl, trivial⟩
  | some tree =>
    by_cases isNull : tree.isNull = true
    · exact ⟨none, if_pos isNull, .inl isNull⟩
    · obtain ⟨isPlain, inner, readTree⟩ := (law tree found).resolve_left isNull
      exact ⟨some inner, (if_neg isNull).trans (congrArg _ readTree), .inr isPlain⟩

/-- A field that the schema requires is read. -/
theorem Admitted.required (admitted : Admitted isDateTime shape names schemas members)
    (name : String) (listed : name ∈ names) (its : schemas.lookup name = some schema)
    (law : Agrees isDateTime schema read plain) :
    ∃ result, requiredField read name members = some result ∧
      PlainMember plain (members.lookup name) :=
  required_member (admitted.present name listed) fun tree found =>
    law tree (admitted.typed name tree schema found its)

/-- An optional field is read whether it is there or not. -/
theorem Admitted.optional (admitted : Admitted isDateTime shape names schemas members)
    (name : String) (its : schemas.lookup name = some schema)
    (law : AgreesOption isDateTime schema read plain) :
    ∃ result, optionalField read name members = some result ∧
      PlainMember plain (members.lookup name) :=
  optional_member fun tree found => law tree (admitted.typed name tree schema found its)

/-- The structure is plain when its fields are. -/
theorem Admitted.shape_plain (admitted : Admitted isDateTime shape names schemas members)
    {plains : List (JsonTree → Prop)}
    (each : List.Forall₂ (fun name plain => PlainMember plain (members.lookup name))
      shape.fields plains) :
    shape.Plain plains (.object members) :=
  ⟨fun _ member inside absent => absurd (admitted.known member inside) absent,
    fun _ inside => List.forall₂_zip each inside⟩

end Fields

end Admission

end Rust.Serde
