import TrustGrant.Library.JsonTree

/-!
# JSON schemas

The keywords of a JSON schema and the values they admit. A keyword that is about another kind
of value admits a value. What counts as an integer and which texts are date-times is not
fixed here.
-/

namespace Library

/-- The types that a schema can name. -/
inductive SchemaType where
  | null
  | boolean
  | integer
  | string
  | array
  | object

/-- A value that a schema can compare with. -/
inductive Scalar where
  | bool (value : Bool)
  | natural (value : Nat)
  | string (value : String)

/-- Whether a value is the scalar. -/
def Scalar.is : Scalar → JsonTree → Bool
  | .bool value, .bool other => value = other
  | .natural value, .natural other => value = other
  | .string value, .string other => value = other
  | _, _ => false

/-- A schema as the conjunction of its keywords. Keywords that are annotations, such as titles
and defaults, admit everything and are left out. -/
inductive Schema where
  | allOf (schemas : List Schema)
  | anyOf (schemas : List Schema)
  | ifThen (condition consequence : Schema)
  | type (types : List SchemaType)
  | const (value : Scalar)
  | enum (values : List Scalar)
  | minLength (least : Nat)
  | pattern (matching : String → Bool)
  /-- `format` with the value `date-time` -/
  | dateTime
  | minimum (least : Nat)
  | minItems (least : Nat)
  | items (schema : Schema)
  | required (names : List String)
  /-- `properties` and `additionalProperties` -/
  | properties (schemas : List (String × Schema)) (additional : Schema)

namespace Schema

/-- The schema `true`. -/
def anything : Schema := .allOf []

/-- The schema `false`. -/
def nothing : Schema := .anyOf []

/-- An object with these properties and no others. -/
def object (names : List String) (schemas : List (String × Schema)) : Schema :=
  .allOf [.type [.object], .required names, .properties schemas .nothing]

/-- A boolean. -/
def boolean : Schema := .allOf [.type [.boolean]]

/-- An integer. -/
def integer : Schema := .allOf [.type [.integer]]

/-- A string. -/
def string : Schema := .allOf [.type [.string]]

/-- A string that is not empty. -/
def someText : Schema := .allOf [.type [.string], .minLength 1]

/-- One of these texts. -/
def oneText (texts : List String) : Schema :=
  .allOf [.type [.string], .enum (texts.map .string)]

/-- A string that is a date-time. -/
def timeStamp : Schema := .allOf [.type [.string], .dateTime]

/-- A list with at least one item. -/
def someList (item : Schema) : Schema := .allOf [.type [.array], .minItems 1, .items item]

/-- Null or what the schema admits. -/
def nullable (schema : Schema) : Schema := .anyOf [.type [.null], schema]

section Valid

variable (isInteger : JsonTree → Bool) (isDateTime : String → Bool)

/-- The values of a type. The objects that a schema is about do not repeat a name, which a schema
cannot express. -/
def hasType : SchemaType → JsonTree → Bool
  | .null, .null => true
  | .boolean, .bool _ => true
  | .integer, tree => isInteger tree
  | .string, .string _ => true
  | .array, .array _ => true
  | .object, .object members => (members.map Prod.fst).Nodup
  | _, _ => false

mutual

/-- The schema admits the value. The keywords are read one by one, and one that is about another
type of value admits it. -/
def valid : Schema → JsonTree → Bool
  | .allOf schemas, tree => validAll schemas tree
  | .anyOf schemas, tree => validAny schemas tree
  | .ifThen condition consequence, tree => !condition.valid tree || consequence.valid tree
  | .type types, tree => types.any fun type => hasType isInteger type tree
  | .const value, tree => value.is tree
  | .enum values, tree => values.any fun value => value.is tree
  | .minLength least, .string value => decide (least ≤ value.toList.length)
  | .pattern matching, .string value => matching value
  | .dateTime, .string value => isDateTime value
  | .minimum least, .natural value => decide (least ≤ value)
  | .minItems least, .array listed => decide (least ≤ listed.length)
  | .items schema, .array listed => listed.all fun item => schema.valid item
  | .required names, .object members => names.all fun name => name ∈ members.map Prod.fst
  | .properties schemas additional, .object members =>
    members.all fun member => validProperty schemas (additional.valid member.2) member.1 member.2
  | _, _ => true

/-- Every schema of a list admits the value. -/
def validAll : List Schema → JsonTree → Bool
  | [], _ => true
  | schema :: schemas, tree => schema.valid tree && validAll schemas tree

/-- Some schema of a list admits the value. -/
def validAny : List Schema → JsonTree → Bool
  | [], _ => false
  | schema :: schemas, tree => schema.valid tree || validAny schemas tree

/-- The schema of the property admits the value, and another property is admitted as given. -/
def validProperty : List (String × Schema) → Bool → String → JsonTree → Bool
  | [], additional, _, _ => additional
  | (known, schema) :: schemas, additional, name, tree =>
    if name = known then schema.valid tree else validProperty schemas additional name tree

end

/-- The recursion over a conjunction, as a statement about its members. The schemas are nested in
lists, so the recursion is over the list as well. -/
@[simp]
theorem valid_all_of (schemas : List Schema) (tree : JsonTree) :
    valid isInteger isDateTime (.allOf schemas) tree = true ↔
      ∀ schema ∈ schemas, valid isInteger isDateTime schema tree = true := by
  rw [valid]
  induction schemas with
  | nil => simp [validAll]
  | cons schema schemas inductionHypothesis =>
    rw [validAll, Bool.and_eq_true, inductionHypothesis, List.forall_mem_cons]

/-- The recursion over a disjunction, as a statement about its members. It is unfolded here once,
so that no later proof follows the recursion. -/
@[simp]
theorem valid_any_of (schemas : List Schema) (tree : JsonTree) :
    valid isInteger isDateTime (.anyOf schemas) tree = true ↔
      ∃ schema ∈ schemas, valid isInteger isDateTime schema tree = true := by
  rw [valid]
  induction schemas with
  | nil => simp [validAny]
  | cons schema schemas inductionHypothesis =>
    rw [validAny, Bool.or_eq_true, inductionHypothesis, List.exists_mem_cons_iff]

/-- A value has one of the named types. -/
@[simp]
theorem valid_type (types : List SchemaType) (tree : JsonTree) :
    valid isInteger isDateTime (.type types) tree = true ↔
      ∃ type ∈ types, hasType isInteger type tree = true := by
  rw [valid, List.any_eq_true]

/-- Null is of the type null only, and is no integer. -/
theorem nullable_iff (schema : Schema) (tree : JsonTree) :
    valid isInteger isDateTime schema.nullable tree = true ↔
      tree.isNull = true ∨ valid isInteger isDateTime schema tree = true := by
  have isNull : hasType isInteger .null tree = tree.isNull := by cases tree <;> rfl
  simp [nullable, isNull]

/-- A property that is known has its schema, and no other property is there. The induction is on
the list of known properties, the first of which with this name is the one that counts. -/
theorem valid_property_known (schemas : List (String × Schema)) (name : String) (tree : JsonTree)
    (isValid : validProperty isInteger isDateTime schemas false name tree = true) :
    ∃ schema, schemas.lookup name = some schema ∧
      valid isInteger isDateTime schema tree = true := by
  induction schemas with
  | nil => simp [validProperty] at isValid
  | cons property schemas inductionHypothesis =>
    obtain ⟨known, schema⟩ := property
    rw [validProperty] at isValid
    by_cases same : name = known
    · rw [if_pos same] at isValid
      exact ⟨schema, by rw [List.lookup_cons, same, beq_self_eq_true], isValid⟩
    · rw [if_neg same] at isValid
      rw [List.lookup_cons, beq_eq_false_iff_ne.mpr same]
      exact inductionHypothesis isValid

/-- An object with the required properties, each of which its schema admits. This is the only
form in which readers use object schemas. -/
theorem valid_object (names : List String) (schemas : List (String × Schema)) (tree : JsonTree)
    (isValid : valid isInteger isDateTime (.object names schemas) tree = true) :
    ∃ members, tree = .object members ∧ (members.map Prod.fst).Nodup ∧
      (∀ name ∈ names, name ∈ members.map Prod.fst) ∧
      ∀ member ∈ members, ∃ schema, schemas.lookup member.1 = some schema ∧
        valid isInteger isDateTime schema member.2 = true := by
  simp only [object, valid_all_of, List.forall_mem_cons, valid_type, List.mem_singleton,
    exists_eq_left, forall_eq] at isValid
  obtain ⟨isObject, hasNames, hasProperties⟩ := isValid
  cases tree with
  | object members =>
    simp only [valid, List.all_eq_true, decide_eq_true_eq] at hasNames hasProperties
    refine ⟨members, rfl, of_decide_eq_true isObject, hasNames, fun member inside => ?_⟩
    have property := hasProperties member inside
    rw [nothing, valid, validAny] at property
    exact valid_property_known isInteger isDateTime schemas member.1 member.2 property
  | _ => cases isObject

end Valid

end Schema

end Library
