import TrustGrant.Library.CanonicalJson

/-!
# JSON values as they are read

A reader meets numbers of every form and objects that repeat names. What it read says the
same as a value that is written when both agree up to the order of members and up to members
that are null on one side and absent on the other. Some members may moreover be spelled
anew.
-/

namespace Library

/-- A JSON value as it is read: a number is a natural number or the text of another one, and
names may repeat. -/
inductive JsonTree where
  | null
  | bool (value : Bool)
  | natural (value : Nat)
  | number (text : String)
  | string (value : String)
  | array (items : List JsonTree)
  | object (members : List (String × JsonTree))

namespace JsonTree

/-- Whether a value is null, which readers of optional fields ask first. -/
def isNull : JsonTree → Bool
  | .null => true
  | _ => false

/-- The member of this name. -/
def member (name : String) : JsonTree → Option JsonTree
  | .object members => members.lookup name
  | _ => none

section SameValue

variable (respells : String → JsonTree → Json → Prop)

mutual

/-- What was read says the same as what is written. Members are compared by their names, and a
member that is null counts like one that is absent. -/
def SameValue : JsonTree → Json → Prop
  | .null, .null => True
  | .bool read, .bool written => read = written
  | .natural read, .number written => read = written
  | .string read, .string written => read = written
  | .array items, .array values => SameItems items values
  | .object members, .object values => SameMembers members values
  | _, _ => False

/-- Items say the same place by place. -/
def SameItems : List JsonTree → List Json → Prop
  | [], [] => True
  | item :: items, value :: values => SameValue item value ∧ SameItems items values
  | _, _ => False

/-- Every member that is not null is matched with a written one of its name, and those that
are not matched are null. -/
def SameMembers : List (String × JsonTree) → List (String × Json) → Prop
  | [], values => ∀ value ∈ values, value.2 = .null
  | (name, tree) :: members, values =>
    if tree.isNull then SameMembers members values
    else ∃ before value after, values = before ++ (name, value) :: after ∧
      (SameValue tree value ∨ respells name tree value) ∧ SameMembers members (before ++ after)

end

/-- Only null says the same as null. -/
@[simp]
theorem same_value_null (tree : JsonTree) :
    SameValue respells tree .null ↔ tree.isNull = true := by
  cases tree <;> simp [SameValue, isNull]

/-- Items that say the same pairwise are as many. The recursion over items is a relation of two
lists, for which there are rules. -/
theorem same_items_iff (items : List JsonTree) (values : List Json) :
    SameItems respells items values ↔ List.Forall₂ (SameValue respells) items values := by
  induction items generalizing values with
  | nil => cases values <;> simp [SameItems]
  | cons item items inductionHypothesis =>
    cases values with
    | nil => simp [SameItems]
    | cons value values => simp [SameItems, inductionHypothesis]

/-- Without nulls the members are as many as the written ones. Each member takes one written
member, and none is left when all are taken. -/
theorem same_members_length (members : List (String × JsonTree)) (values : List (String × Json))
    (read : ∀ member ∈ members, member.2.isNull = false)
    (written : ∀ value ∈ values, value.2 ≠ .null)
    (same : SameMembers respells members values) : members.length = values.length := by
  induction members generalizing values with
  | nil =>
    cases values with
    | nil => rfl
    | cons value values =>
      exact absurd (same value List.mem_cons_self) (written value List.mem_cons_self)
  | cons member rest inductionHypothesis =>
    obtain ⟨notNull, readRest⟩ := List.forall_mem_cons.mp read
    simp only [SameMembers, notNull, Bool.false_eq_true, if_false] at same
    obtain ⟨before, value, after, rfl, _, sameRest⟩ := same
    have writtenRest : ∀ value ∈ before ++ after, value.2 ≠ .null := by
      intro value inside
      refine written value ?_
      rw [List.mem_append, List.mem_cons]
      exact (List.mem_append.mp inside).imp_right .inr
    have restLength := inductionHypothesis _ readRest writtenRest sameRest
    rw [List.length_append] at restLength
    simp only [List.length_cons, List.length_append]
    omega

/-- A written null may be left out. Members that are null take nothing, so the written null is
never needed. -/
theorem same_members_null (members : List (String × JsonTree)) (values : List (String × Json))
    (name : String) (apart : ∀ name tree, ¬ respells name tree .null) :
    SameMembers respells members (values ++ [(name, .null)]) ↔
      SameMembers respells members values := by
  induction members generalizing values with
  | nil =>
    simp only [SameMembers, List.forall_mem_append, List.forall_mem_singleton, and_true]
  | cons member rest inductionHypothesis =>
    obtain ⟨memberName, tree⟩ := member
    by_cases isNull : tree.isNull = true
    · simpa only [SameMembers, isNull, if_true] using inductionHypothesis values
    · simp only [SameMembers, isNull]
      constructor
      · rintro ⟨before, value, after, shape, sameValue, sameRest⟩
        rcases List.eq_nil_or_concat after with rfl | ⟨after, last, rfl⟩
        · obtain ⟨_, taken⟩ := List.append_inj' shape rfl
          cases taken
          rw [same_value_null] at sameValue
          exact absurd sameValue (not_or_intro isNull (apart _ tree))
        · rw [List.concat_eq_append, ← List.cons_append, ← List.append_assoc] at shape
          obtain ⟨rfl, taken⟩ := List.append_inj' shape rfl
          cases taken
          rw [List.concat_eq_append, ← List.append_assoc, inductionHypothesis] at sameRest
          exact ⟨before, value, after, rfl, sameValue, sameRest⟩
      · rintro ⟨before, value, after, rfl, sameValue, sameRest⟩
        refine ⟨before, value, after ++ [(name, .null)], by simp, sameValue, ?_⟩
        rw [← List.append_assoc, inductionHypothesis]
        exact sameRest

/-- A member that was read, if any was, says the same as a written one. -/
def SameMember (value : String × Json) : Option JsonTree → Prop
  | none => value.2 = .null
  | some tree =>
    if tree.isNull then value.2 = .null
    else SameValue respells tree value.2 ∨ respells value.1 tree value.2

/-- What is written has every member that was read and is not null, and each of its members
says the same as the one of its name that was read. -/
def AgreeByName (members : List (String × JsonTree)) (values : List (String × Json)) : Prop :=
  (∀ member ∈ members, member.1 ∉ values.map Prod.fst → member.2.isNull = true) ∧
    ∀ value ∈ values, SameMember respells value (members.lookup value.1)

/-- A name that does not occur is not found. -/
theorem lookup_eq_none {α : Type} (name : String) (members : List (String × α))
    (absent : name ∉ members.map Prod.fst) : members.lookup name = none := by
  rw [List.lookup_eq_none_iff]
  intro member inside
  rw [bne_iff_ne]
  rintro rfl
  exact absent (List.mem_map_of_mem inside)

/-- What is found occurs. -/
theorem mem_of_lookup {α : Type} (name : String) (value : α) (members : List (String × α))
    (found : members.lookup name = some value) : (name, value) ∈ members := by
  obtain ⟨before, after, shape, _⟩ := List.lookup_eq_some_iff.mp found
  rw [shape]
  exact List.mem_append_right _ List.mem_cons_self

/-- What occurs is found when no name is repeated. Otherwise an earlier member of the name would
be found in its place. -/
theorem lookup_of_mem {α : Type} (name : String) (value : α) (members : List (String × α))
    (distinct : (members.map Prod.fst).Nodup) (inside : (name, value) ∈ members) :
    members.lookup name = some value := by
  obtain ⟨before, after, rfl⟩ := List.append_of_mem inside
  refine List.lookup_eq_some_iff.mpr ⟨before, after, rfl, fun member earlier => ?_⟩
  rw [List.map_append, List.nodup_append] at distinct
  rw [bne_iff_ne]
  exact (distinct.2.2 _ (List.mem_map_of_mem earlier) _ List.mem_cons_self).symm

/-- A null member whose name does not return changes nothing. Looked up, it says the same as a
missing member. -/
theorem agree_cons_null (name : String) (tree : JsonTree) (rest : List (String × JsonTree))
    (values : List (String × Json)) (isNull : tree.isNull = true)
    (once : name ∈ values.map Prod.fst → name ∉ rest.map Prod.fst) :
    AgreeByName respells ((name, tree) :: rest) values ↔ AgreeByName respells rest values := by
  have sameLookup : ∀ value ∈ values,
      (SameMember respells value (((name, tree) :: rest).lookup value.1) ↔
        SameMember respells value (rest.lookup value.1)) := by
    intro value inside
    by_cases same : value.1 = name
    · have absent : rest.lookup value.1 = none := by
        rw [same]
        exact lookup_eq_none name rest (once (same ▸ List.mem_map_of_mem inside))
      rw [absent, List.lookup_cons, same, beq_self_eq_true]
      simp only [SameMember, isNull, if_true]
    · rw [List.lookup_cons, beq_eq_false_iff_ne.mpr same]
  unfold AgreeByName
  rw [List.forall_mem_cons, forall₂_congr sameLookup]
  exact ⟨fun ⟨⟨_, unknown⟩, each⟩ => ⟨unknown, each⟩,
    fun ⟨unknown, each⟩ => ⟨⟨fun _ => isNull, unknown⟩, each⟩⟩

/-- A member that is not null takes the written one of its name. For the other names the look-ups
on both sides are those of the rest, since no name returns. -/
theorem agree_cons_taken (name : String) (tree : JsonTree) (rest : List (String × JsonTree))
    (before after : List (String × Json)) (value : Json) (notNull : tree.isNull = false)
    (once : name ∉ rest.map Prod.fst) (distinct : name ∉ (before ++ after).map Prod.fst) :
    AgreeByName respells ((name, tree) :: rest) (before ++ (name, value) :: after) ↔
      (SameValue respells tree value ∨ respells name tree value) ∧
        AgreeByName respells rest (before ++ after) := by
  have known : ∀ other, other ∈ (before ++ (name, value) :: after).map Prod.fst ↔
      other = name ∨ other ∈ (before ++ after).map Prod.fst := by
    intro other
    simp only [List.map_append, List.map_cons, List.mem_append, List.mem_cons]
    tauto
  have each : (∀ written ∈ before ++ (name, value) :: after,
      SameMember respells written (((name, tree) :: rest).lookup written.1)) ↔
      (SameValue respells tree value ∨ respells name tree value) ∧
        ∀ written ∈ before ++ after, SameMember respells written (rest.lookup written.1) := by
    have others : ∀ written ∈ before ++ after,
        ((name, tree) :: rest).lookup written.1 = rest.lookup written.1 := by
      intro written inside
      have apart : written.1 ≠ name := by
        rintro rfl
        exact distinct (List.mem_map_of_mem inside)
      rw [List.lookup_cons, beq_eq_false_iff_ne.mpr apart]
    have taken : SameMember respells (name, value) (((name, tree) :: rest).lookup name) ↔
        (SameValue respells tree value ∨ respells name tree value) := by
      rw [List.lookup_cons, beq_self_eq_true]
      simp only [SameMember, notNull, Bool.false_eq_true, if_false]
    rw [List.forall_mem_append, List.forall_mem_cons, taken, and_left_comm,
      ← List.forall_mem_append]
    exact and_congr_right fun _ => forall₂_congr fun written inside => by rw [others written inside]
  have unknown : (∀ member ∈ (name, tree) :: rest,
      member.1 ∉ (before ++ (name, value) :: after).map Prod.fst → member.2.isNull = true) ↔
      ∀ member ∈ rest, member.1 ∉ (before ++ after).map Prod.fst → member.2.isNull = true := by
    rw [List.forall_mem_cons,
      and_iff_right fun absent => absurd ((known name).mpr (.inl rfl)) absent]
    refine forall₂_congr fun member inside => ?_
    have apart : member.1 ≠ name := by
      rintro rfl
      exact once (List.mem_map_of_mem inside)
    rw [known, or_iff_right apart]
  unfold AgreeByName
  rw [each, unknown]
  tauto

/-- An object whose known names do not repeat says the same as a written object with these
names exactly when its unknown members are null and each of the others says the same. -/
theorem same_members_iff (members : List (String × JsonTree)) (values : List (String × Json))
    (distinct : (values.map Prod.fst).Nodup)
    (single : ((members.map Prod.fst).filter fun name => name ∈ values.map Prod.fst).Nodup) :
    SameMembers respells members values ↔ AgreeByName respells members values := by
  induction members generalizing values with
  | nil => simp [SameMembers, AgreeByName, SameMember]
  | cons member rest inductionHypothesis =>
    obtain ⟨name, tree⟩ := member
    have once : name ∈ values.map Prod.fst → name ∉ rest.map Prod.fst := by
      intro known again
      rw [List.map_cons, List.filter_cons, if_pos (decide_eq_true known)] at single
      exact (List.nodup_cons.mp single).1 (List.mem_filter.mpr ⟨again, decide_eq_true known⟩)
    have singleRest :
        ((rest.map Prod.fst).filter fun name => name ∈ values.map Prod.fst).Nodup :=
      single.sublist ((List.sublist_cons_self _ _).filter _)
    by_cases isNull : tree.isNull = true
    · rw [agree_cons_null respells name tree rest values isNull once,
        ← inductionHypothesis values distinct singleRest]
      simp only [SameMembers, isNull, if_true]
    · have notNull : tree.isNull = false := by simpa using isNull
      have split : ∀ before value after, values = before ++ (name, value) :: after →
          (AgreeByName respells ((name, tree) :: rest) values ↔
            (SameValue respells tree value ∨ respells name tree value) ∧
              SameMembers respells rest (before ++ after)) := by
        rintro before value after rfl
        have perm : ((before ++ (name, value) :: after).map Prod.fst).Perm
            (name :: (before ++ after).map Prod.fst) := by
          rw [← List.map_cons (f := Prod.fst) (a := (name, value))]
          exact List.perm_middle.map _
        have apart := List.nodup_cons.mp (perm.nodup_iff.mp distinct)
        have singleLeft : ((rest.map Prod.fst).filter
            fun name => name ∈ (before ++ after).map Prod.fst).Nodup := by
          refine singleRest.sublist (List.monotone_filter_right _ fun other inside => ?_)
          rw [decide_eq_true_eq] at inside ⊢
          exact perm.mem_iff.mpr (List.mem_cons_of_mem _ inside)
        rw [agree_cons_taken respells name tree rest before after value notNull
          (once (perm.mem_iff.mpr List.mem_cons_self)) apart.1,
          inductionHypothesis _ apart.2 singleLeft]
      simp only [SameMembers, notNull, Bool.false_eq_true, if_false]
      constructor
      · rintro ⟨before, value, after, shape, same⟩
        exact (split before value after shape).mpr same
      · intro agree
        have known : name ∈ values.map Prod.fst := by
          by_contra unknown
          have isNull := agree.1 (name, tree) List.mem_cons_self unknown
          exact absurd isNull (by simp [notNull])
        obtain ⟨⟨_, value⟩, inside, rfl⟩ := List.mem_map.mp known
        obtain ⟨before, after, shape⟩ := List.append_of_mem inside
        exact ⟨before, value, after, shape, (split before value after shape).mp agree⟩

end SameValue

end JsonTree

end Library
