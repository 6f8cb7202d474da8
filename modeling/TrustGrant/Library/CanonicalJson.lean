import TrustGrant.Library.PrefixCode
import TrustGrant.Library.SortedMap

/-!
# JSON values in canonical form

A JSON value is written without white space. Its canonical text is that of the value in
which every object lists its members in strictly increasing order of their names, a later
member replacing an earlier one of its name. What names are ordered by and how strings and
numbers are written are conventions that a canonical form fixes.
-/

namespace Library

universe u

/-- A JSON value whose numbers are natural numbers. -/
inductive Json where
  | null
  | bool (value : Bool)
  | number (value : Nat)
  | string (value : String)
  | array (items : List Json)
  | object (members : List (String × Json))

/-- The value without the member of this name. -/
def Json.remove (name : String) : Json → Json
  | .object members => .object (members.filter fun member => member.1 ≠ name)
  | value => value

section Induction

variable {motive : Json → Prop} (null : motive .null) (bool : ∀ value, motive (.bool value))
  (number : ∀ value, motive (.number value)) (string : ∀ value, motive (.string value))
  (array : ∀ items, (∀ item ∈ items, motive item) → motive (.array items))
  (object : ∀ members, (∀ member ∈ members, motive member.2) → motive (.object members))

include null bool number string array object

set_option linter.unusedSectionVars false

mutual

/-- Induction over a value, its items and the values of its members. -/
theorem Json.induct : ∀ value, motive value
  | .null => null
  | .bool value => bool value
  | .number value => number value
  | .string value => string value
  | .array items => array items (Json.induct_items items)
  | .object members => object members (Json.induct_members members)

/-- The hypothesis for every item of an array. -/
theorem Json.induct_items : ∀ items : List Json, ∀ item ∈ items, motive item
  | [] => List.forall_mem_nil _
  | item :: rest => List.forall_mem_cons.mpr ⟨Json.induct item, Json.induct_items rest⟩

/-- The hypothesis for the value of every member of an object. -/
theorem Json.induct_members :
    ∀ members : List (String × Json), ∀ member ∈ members, motive member.2
  | [] => List.forall_mem_nil _
  | (_, value) :: rest =>
    List.forall_mem_cons.mpr ⟨Json.induct value, Json.induct_members rest⟩

end

end Induction

/-- What a canonical form fixes. -/
structure CanonicalForm (κ : Type u) where
  order : String → κ
  writeString : String → List Char
  writeNumber : Nat → List Char

namespace CanonicalForm

open PrefixCode

variable {κ : Type u} (form : CanonicalForm κ)

/-- A value between two delimiters. -/
def enclosed (first last : Char) (texts : List (List Char)) : List Char :=
  first :: (separated ',' id texts ++ [last])

/-- The opening brace. -/
def openBrace : Char := Char.ofNat 0x7B

/-- The closing brace. -/
def closeBrace : Char := Char.ofNat 0x7D

mutual

/-- The text of a value, with its members in the order in which it lists them. Putting them in
order is another function, so both can be studied apart. -/
def write : Json → List Char
  | .null => ['n', 'u', 'l', 'l']
  | .bool true => ['t', 'r', 'u', 'e']
  | .bool false => ['f', 'a', 'l', 's', 'e']
  | .number value => form.writeNumber value
  | .string value => form.writeString value
  | .array items => enclosed '[' ']' (writeItems items)
  | .object members => enclosed openBrace closeBrace (writeMembers members)

/-- The texts of the items. -/
def writeItems : List Json → List (List Char)
  | [] => []
  | item :: rest => write item :: writeItems rest

/-- The texts of the members, each with its name. -/
def writeMembers : List (String × Json) → List (List Char)
  | [] => []
  | (name, value) :: rest => (form.writeString name ++ ':' :: write value) :: writeMembers rest

end

variable [LinearOrder κ]

/-- Members in the order of their names. -/
def sortMembers (members : List (String × Json)) : List (String × Json) :=
  (SortedMap.ofEntries (members.map fun member => (form.order member.1, member))).entries.map
    Prod.snd

mutual

/-- The value with the members of all its objects in order. -/
def sorted : Json → Json
  | .array items => .array (sortedItems items)
  | .object members => .object (form.sortMembers (sortedMembers members))
  | .null => .null
  | .bool value => .bool value
  | .number value => .number value
  | .string value => .string value

/-- The items, each sorted in itself. -/
def sortedItems : List Json → List Json
  | [] => []
  | item :: rest => sorted item :: sortedItems rest

/-- The members, each sorted in itself and left in its place. -/
def sortedMembers : List (String × Json) → List (String × Json)
  | [] => []
  | (name, value) :: rest => (name, sorted value) :: sortedMembers rest

end

/-- The canonical text of a value. -/
def encode (value : Json) : List Char := form.write (form.sorted value)

/-- Every object of a value lists its members in strictly increasing order. So no name occurs
twice in it. -/
inductive Increasing : Json → Prop
  | null : Increasing .null
  | bool (value : Bool) : Increasing (.bool value)
  | number (value : Nat) : Increasing (.number value)
  | string (value : String) : Increasing (.string value)
  | array (items : List Json) (each : ∀ item ∈ items, Increasing item) : Increasing (.array items)
  | object (members : List (String × Json))
      (names : (members.map fun member => form.order member.1).Pairwise (· < ·))
      (each : ∀ member ∈ members, Increasing member.2) : Increasing (.object members)

/-! ## Lists of values -/

omit [LinearOrder κ] in

/-- The recursion over items is a map. -/
theorem write_items_eq (items : List Json) : form.writeItems items = items.map form.write := by
  induction items with
  | nil => rfl
  | cons item rest inductionHypothesis => rw [writeItems, inductionHypothesis, List.map_cons]

omit [LinearOrder κ] in

/-- The recursion over members is a map. -/
theorem write_members_eq (members : List (String × Json)) :
    form.writeMembers members =
      members.map fun member => form.writeString member.1 ++ ':' :: form.write member.2 := by
  induction members with
  | nil => rfl
  | cons member rest inductionHypothesis => rw [writeMembers, inductionHypothesis, List.map_cons]

/-- The text of one member. -/
def writeMember (member : String × Json) : List Char :=
  form.writeString member.1 ++ ':' :: form.write member.2

/-- Texts between delimiters, as a separated list of the values themselves. -/
theorem enclosed_map {α : Type*} (first last : Char) (text : α → List Char) (values : List α) :
    enclosed first last (values.map text) = first :: (separated ',' text values ++ [last]) := by
  rw [enclosed, separated_map]
  rfl

omit [LinearOrder κ] in

/-- An array is written as its items with commas between them. -/
theorem write_array (items : List Json) :
    form.write (.array items) = '[' :: (separated ',' form.write items ++ [']']) := by
  rw [write, write_items_eq, enclosed_map]

omit [LinearOrder κ] in

/-- An object is written as its members with commas between them. -/
theorem write_object (members : List (String × Json)) :
    form.write (.object members) =
      openBrace :: (separated ',' form.writeMember members ++ [closeBrace]) := by
  rw [write, write_members_eq, enclosed_map]
  rfl

/-- Sorting items one by one is a map. -/
theorem sorted_items_eq (items : List Json) : form.sortedItems items = items.map form.sorted := by
  induction items with
  | nil => rfl
  | cons item rest inductionHypothesis => rw [sortedItems, inductionHypothesis, List.map_cons]

/-- Sorting members one by one is a map that keeps the names. -/
theorem sorted_members_eq (members : List (String × Json)) :
    form.sortedMembers members = members.map fun member => (member.1, form.sorted member.2) := by
  induction members with
  | nil => rfl
  | cons member rest inductionHypothesis => rw [sortedMembers, inductionHypothesis, List.map_cons]

/-! ## The canonical value -/

/-- Members that are sorted are members that were given. -/
theorem mem_sort_members (members : List (String × Json)) (member : String × Json)
    (listed : member ∈ form.sortMembers members) : member ∈ members := by
  obtain ⟨entry, inside, rfl⟩ := List.mem_map.mp listed
  obtain ⟨given, isGiven, rfl⟩ := List.mem_map.mp (SortedMap.mem_of_entries _ entry inside)
  exact isGiven

/-- Sorted members are in strictly increasing order of their names. They are the entries of a
map, and different names are given different keys by the form. -/
theorem sort_members_increasing (members : List (String × Json)) :
    ((form.sortMembers members).map fun member => form.order member.1).Pairwise (· < ·) := by
  have keyed : ∀ entry ∈ (SortedMap.ofEntries
      (members.map fun member => (form.order member.1, member))).entries,
      form.order entry.2.1 = entry.1 := by
    intro entry inside
    obtain ⟨given, -, rfl⟩ := List.mem_map.mp (SortedMap.mem_of_entries _ entry inside)
    rfl
  have ordered := (SortedMap.ofEntries
    (members.map fun member => (form.order member.1, member))).sorted
  rw [sortMembers, List.map_map, List.pairwise_map]
  refine ordered.imp_of_mem fun left right before => ?_
  rw [Function.comp_apply, Function.comp_apply, keyed _ left, keyed _ right]
  exact before

/-- Every object of the canonical value lists its members in strictly increasing order. The
induction is on the value; sorting an object sorts its members first and keeps which ones there
are. -/
theorem sorted_increasing (value : Json) : form.Increasing (form.sorted value) := by
  induction value using Json.induct with
  | null => exact .null
  | bool value => exact .bool value
  | number value => exact .number value
  | string value => exact .string value
  | array items inductionHypothesis =>
    refine .array _ ?_
    rw [sorted_items_eq, List.forall_mem_map]
    exact inductionHypothesis
  | object members inductionHypothesis =>
    refine .object _ (form.sort_members_increasing _) fun member listed => ?_
    have given := form.mem_sort_members _ member listed
    rw [sorted_members_eq] at given
    obtain ⟨original, inside, rfl⟩ := List.mem_map.mp given
    exact inductionHypothesis original inside

/-- Members in any order are sorted into the increasing order of their names. The sorted list is
the one list of these members with increasing names. -/
theorem sort_members_of_perm (members target : List (String × Json))
    (increasing : (target.map fun member => form.order member.1).Pairwise (· < ·))
    (same : target.Perm members) : form.sortMembers members = target := by
  have sortedEntries : (target.map fun member => (form.order member.1, member)).Pairwise
      fun earlier later => earlier.1 < later.1 :=
    List.pairwise_map.mpr (List.pairwise_map.mp increasing)
  rw [sortMembers, SortedMap.of_entries_of_perm ⟨_, sortedEntries⟩ _
    (same.symm.map fun member => (form.order member.1, member)), List.map_map]
  exact List.map_id _

/-! ## Canonical texts -/

/-- The text of one member. -/
def encodeMember (member : String × Json) : List Char :=
  form.writeString member.1 ++ ':' :: form.encode member.2

/-- An array is encoded item by item; its items keep their order. -/
theorem encode_array (items : List Json) :
    form.encode (.array items) = '[' :: (separated ',' form.encode items ++ [']']) := by
  rw [encode, sorted, write_array, sorted_items_eq, separated_map]
  rfl

/-- An object is written with its members in increasing order, whatever order they are
listed in. -/
theorem encode_object (members target : List (String × Json))
    (increasing : (target.map fun member => form.order member.1).Pairwise (· < ·))
    (same : target.Perm members) :
    form.encode (.object members) =
      openBrace :: (separated ',' form.encodeMember target ++ [closeBrace]) := by
  have sortedTarget : form.sortMembers (form.sortedMembers members) =
      target.map fun member => (member.1, form.sorted member.2) := by
    rw [sorted_members_eq]
    refine form.sort_members_of_perm _ _ ?_ (same.map _)
    rw [List.map_map]
    exact increasing
  rw [encode, sorted, sortedTarget, write_object, separated_map]
  rfl

/-- A record: its fields are listed in one order and written in another, given by their
positions. -/
theorem encode_record (names : List String) (values : List Json) (positions : List Nat)
    (counted : values.length = names.length)
    (complete : positions.Perm (List.range names.length))
    (increasing : (positions.map fun position => form.order (names.getD position "")).Pairwise
      (· < ·)) :
    form.encode (.object (names.zip values)) =
      openBrace :: (separated ',' form.encodeMember
        (positions.map fun position => (names.getD position "", values.getD position .null)) ++
          [closeBrace]) := by
  have listed : ((List.range names.length).map fun position =>
      (names.getD position "", values.getD position .null)) = names.zip values := by
    refine List.ext_getElem (by simp [counted]) fun position inside within => ?_
    simp only [List.length_map, List.length_range] at inside
    have insideValues : position < values.length := counted ▸ inside
    simp [List.getD, inside, insideValues]
  refine form.encode_object _ _ ?_ (listed ▸ complete.map _)
  rw [List.map_map]
  exact increasing

/-! ## A text determines its value -/

/-- The quotation mark. -/
def quote : Char := Char.ofNat 0x22

/-- What the first character of a text tells about its value. -/
inductive Initial where
  | null
  | bool (value : Bool)
  | number
  | string
  | array
  | object

/-- How the text of a value begins. -/
def initial : Json → Initial
  | .null => .null
  | .bool value => .bool value
  | .number _ => .number
  | .string _ => .string
  | .array _ => .array
  | .object _ => .object

/-- The form of a value that begins with a symbol. The first symbol of a canonical text decides
it. -/
def initialOf (first : Char) : Option Initial :=
  if first.isDigit then some .number
  else if first = quote then some .string
  else if first = '[' then some .array
  else if first = openBrace then some .object
  else if first = 'n' then some .null
  else if first = 't' then some (.bool true)
  else if first = 'f' then some (.bool false)
  else none

/-- A form whose strings and numbers can be cut off again from the text they begin. Then so can
all values, which is what makes canonical texts injective. -/
structure Readable (Stop : Char → Prop) : Prop where
  commaStops : Stop ','
  bracketStops : Stop ']'
  braceStops : Stop closeBrace
  strings : SelfDelimiting form.writeString
  quoted : BeginsWith quote form.writeString
  numbers : Terminated Stop form.writeNumber
  digits : ∀ value, ∃ first rest, form.writeNumber value = first :: rest ∧ first.isDigit = true

section Readable

variable {form} {Stop : Char → Prop} (readable : form.Readable Stop)

include readable

omit [LinearOrder κ]

/-- The first symbol of a text tells the form of its value. This is what lets the proof of
injectivity go through the constructors pairwise. -/
theorem write_begins (value : Json) :
    ∃ first rest, form.write value = first :: rest ∧ initialOf first = some (initial value) := by
  cases value with
  | null => exact ⟨'n', _, rfl, rfl⟩
  | bool value =>
    cases value with
    | true => exact ⟨'t', _, rfl, rfl⟩
    | false => exact ⟨'f', _, rfl, rfl⟩
  | number value =>
    obtain ⟨first, rest, written, digit⟩ := readable.digits value
    exact ⟨first, rest, written, if_pos digit⟩
  | string value =>
    obtain ⟨rest, written⟩ := readable.quoted value
    exact ⟨quote, rest, written, rfl⟩
  | array items => exact ⟨'[', _, form.write_array items, rfl⟩
  | object members => exact ⟨openBrace, _, form.write_object members, rfl⟩

/-- Texts that begin alike are those of values of one kind. The first symbol of a text decides
the kind. -/
theorem initial_eq {left right : Json} {leftRest rightRest : List Char}
    (same : form.write left ++ leftRest = form.write right ++ rightRest) :
    initial left = initial right := by
  obtain ⟨leftFirst, leftTail, leftWritten, leftInitial⟩ := write_begins readable left
  obtain ⟨rightFirst, rightTail, rightWritten, rightInitial⟩ := write_begins readable right
  rw [leftWritten, rightWritten] at same
  rw [List.head_eq_of_cons_eq same, rightInitial] at leftInitial
  exact (Option.some.inj leftInitial).symm

/-- No value begins with a bracket that closes. -/
theorem write_never_closes : NeverBegins ']' form.write := by
  intro value
  obtain ⟨first, rest, written, known⟩ := write_begins readable value
  refine ⟨first, rest, written, ?_⟩
  rintro rfl
  cases known

/-- No member begins with a brace that closes. -/
theorem write_member_never_closes : NeverBegins closeBrace form.writeMember := by
  intro member
  obtain ⟨rest, written⟩ := readable.quoted member.1
  exact ⟨quote, rest ++ ':' :: form.write member.2, by rw [writeMember, written]; rfl, by decide⟩

/-- A member is ended by what ends its value. The name in front of it is quoted and so ends by
itself. -/
theorem write_member_terminated (member : String × Json)
    (value : TerminatedAt Stop form.write member.2) :
    TerminatedAt Stop form.writeMember member := by
  intro right leftStop rightStop leftRest rightRest leftStops rightStops same
  simp only [writeMember, List.append_assoc, List.cons_append] at same
  obtain ⟨sameName, remaining⟩ := readable.strings.before same
  obtain ⟨sameValue, sameRest⟩ := value _ _ _ _ _ leftStops rightStops remaining
  exact ⟨Prod.ext sameName sameValue, sameRest⟩

/-- The text of a value is ended by a comma or by what closes the value around it. By induction
on the value: two values with texts that begin alike have the same form, and arrays and objects
are read off item by item. Numbers are the reason why the symbol that follows belongs to the
statement. -/
theorem write_terminated (value : Json) : TerminatedAt Stop form.write value := by
  induction value using Json.induct with
  | null =>
    intro right leftStop rightStop leftRest rightRest _ _ same
    have sameKind := initial_eq readable same
    cases right <;> cases sameKind
    exact ⟨rfl, List.append_cancel_left same⟩
  | bool value =>
    intro right leftStop rightStop leftRest rightRest _ _ same
    have sameKind := initial_eq readable same
    cases right <;> cases sameKind
    exact ⟨rfl, List.append_cancel_left same⟩
  | number value =>
    intro right leftStop rightStop leftRest rightRest leftStops rightStops same
    have sameKind := initial_eq readable same
    cases right <;> cases sameKind
    obtain ⟨sameValue, sameRest⟩ := readable.numbers _ _ _ _ _ _ leftStops rightStops same
    exact ⟨congrArg Json.number sameValue, sameRest⟩
  | string value =>
    intro right leftStop rightStop leftRest rightRest _ _ same
    have sameKind := initial_eq readable same
    cases right <;> cases sameKind
    obtain ⟨sameValue, sameRest⟩ := readable.strings _ _ _ _ same
    exact ⟨congrArg Json.string sameValue, sameRest⟩
  | array items inductionHypothesis =>
    intro right leftStop rightStop leftRest rightRest _ _ same
    have sameKind := initial_eq readable same
    cases right <;> cases sameKind
    simp only [write_array, List.cons_append, List.append_assoc, List.nil_append,
      List.cons.injEq, true_and] at same
    obtain ⟨sameItems, sameRest⟩ := terminated_separated_closed (by decide) readable.commaStops
      readable.bracketStops (write_never_closes readable) inductionHypothesis same
    exact ⟨congrArg Json.array sameItems, sameRest⟩
  | object members inductionHypothesis =>
    intro right leftStop rightStop leftRest rightRest _ _ same
    have sameKind := initial_eq readable same
    cases right <;> cases sameKind
    simp only [write_object, List.cons_append, List.append_assoc, List.nil_append,
      List.cons.injEq, true_and] at same
    obtain ⟨sameMembers, sameRest⟩ := terminated_separated_closed (by decide)
      readable.commaStops readable.braceStops (write_member_never_closes readable)
      (fun member inside => write_member_terminated readable member
        (inductionHypothesis member inside)) same
    exact ⟨congrArg Json.object sameMembers, sameRest⟩

/-- A text is that of one value. -/
theorem write_injective : Function.Injective form.write := by
  intro left right same
  have closed : form.write left ++ [','] = form.write right ++ [','] := congrArg (· ++ [',']) same
  exact (write_terminated readable left right ',' ',' [] [] readable.commaStops
    readable.commaStops closed).1

end Readable

end CanonicalForm

end Library
