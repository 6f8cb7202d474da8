import Mathlib.Data.List.Basic

/-!
# Writers whose output can be cut off again

A writer turns a value into a list of symbols. It is self-delimiting when its output,
followed by anything, determines the value and what follows. A number in decimal is
not self-delimiting, because more digits may follow; it is terminated by a kind of
symbols when its output followed by one of them determines both.

Records are read off field by field with these two notions. Optional values, sequences
and named fields are the constructions stated here.
-/

namespace Library.PrefixCode

universe u v
variable {α : Type u} {β : Type v}

/-- The output followed by anything determines the value and the rest. -/
def SelfDelimiting (write : α → List β) : Prop :=
  ∀ left right leftRest rightRest, write left ++ leftRest = write right ++ rightRest →
    left = right ∧ leftRest = rightRest

/-- The output followed by a stopping symbol determines the value and the rest. -/
def Terminated (Stop : β → Prop) (write : α → List β) : Prop :=
  ∀ left right leftStop rightStop leftRest rightRest, Stop leftStop → Stop rightStop →
    write left ++ leftStop :: leftRest = write right ++ rightStop :: rightRest →
      left = right ∧ leftStop :: leftRest = rightStop :: rightRest

/-- A self-delimiting writer needs no stopping symbol. -/
theorem SelfDelimiting.terminated {write : α → List β} (code : SelfDelimiting write)
    (Stop : β → Prop) : Terminated Stop write := by
  intro left right leftStop rightStop leftRest rightRest _ _ same
  exact code left right _ _ same

/-- Writing a fixed name first keeps a writer self-delimiting. -/
theorem SelfDelimiting.named {write : α → List β} (code : SelfDelimiting write)
    (name : List β) : SelfDelimiting fun value => name ++ write value := by
  intro left right leftRest rightRest same
  rw [List.append_assoc, List.append_assoc] at same
  exact code left right leftRest rightRest (List.append_cancel_left same)

/-- Writing a fixed name first keeps a writer terminated. -/
theorem Terminated.named {Stop : β → Prop} {write : α → List β} (code : Terminated Stop write)
    (name : List β) : Terminated Stop fun value => name ++ write value := by
  intro left right leftStop rightStop leftRest rightRest leftStops rightStops same
  rw [List.append_assoc, List.append_assoc] at same
  exact code left right _ _ _ _ leftStops rightStops (List.append_cancel_left same)

/-- Read off one value and the symbol behind it. -/
theorem SelfDelimiting.before {write : α → List β} (code : SelfDelimiting write) {symbol : β}
    {left right : α} {leftRest rightRest : List β}
    (same : write left ++ symbol :: leftRest = write right ++ symbol :: rightRest) :
    left = right ∧ leftRest = rightRest := by
  obtain ⟨sameValue, sameRest⟩ := code _ _ _ _ same
  exact ⟨sameValue, List.tail_eq_of_cons_eq sameRest⟩

/-- Read off one terminated value and the stopping symbol behind it. -/
theorem Terminated.before {Stop : β → Prop} {write : α → List β} (code : Terminated Stop write)
    {symbol : β} (stops : Stop symbol) {left right : α} {leftRest rightRest : List β}
    (same : write left ++ symbol :: leftRest = write right ++ symbol :: rightRest) :
    left = right ∧ leftRest = rightRest := by
  obtain ⟨sameValue, sameRest⟩ := code _ _ _ _ _ _ stops stops same
  exact ⟨sameValue, List.tail_eq_of_cons_eq sameRest⟩

/-- A writer whose output a reader cuts off again is self-delimiting. The reader recovers value
and remainder, so both are determined. -/
theorem self_delimiting_of_reader {write : α → List β}
    (read : List β → Option (α × List β))
    (reads : ∀ value rest, read (write value ++ rest) = some (value, rest)) :
    SelfDelimiting write := by
  intro left right leftRest rightRest same
  have sameRead := congrArg read same
  rw [reads, reads, Option.some.injEq, Prod.mk.injEq] at sameRead
  exact sameRead

/-- A run of symbols of one class ends at the first symbol outside the class. Both runs are the
longest beginning inside the class of the same sequence. -/
theorem run_ends (inClass : β → Bool) {left right : List β} {leftStop rightStop : β}
    {leftRest rightRest : List β} (leftRun : ∀ symbol ∈ left, inClass symbol = true)
    (rightRun : ∀ symbol ∈ right, inClass symbol = true) (leftStops : inClass leftStop = false)
    (rightStops : inClass rightStop = false)
    (same : left ++ leftStop :: leftRest = right ++ rightStop :: rightRest) :
    left = right ∧ leftStop :: leftRest = rightStop :: rightRest := by
  have firstRun : (left ++ leftStop :: leftRest).takeWhile inClass = left := by
    rw [List.takeWhile_append_of_pos leftRun]
    simp [leftStops]
  have secondRun : (right ++ rightStop :: rightRest).takeWhile inClass = right := by
    rw [List.takeWhile_append_of_pos rightRun]
    simp [rightStops]
  have sameRun : left = right := by rw [← firstRun, same, secondRun]
  subst sameRun
  exact ⟨rfl, List.append_cancel_left same⟩

/-- An absent value is a fixed text, a present one is written. -/
def optional (absent : List β) (write : α → List β) : Option α → List β
  | none => absent
  | some value => write value

/-- Every output begins with the same symbol. -/
def BeginsWith (symbol : β) (write : α → List β) : Prop :=
  ∀ value, ∃ rest, write value = symbol :: rest

/-- The fixed text of an absent value may not be mistaken for a present one. -/
def NeverBegins (symbol : β) (write : α → List β) : Prop :=
  ∀ value, ∃ first rest, write value = first :: rest ∧ first ≠ symbol

/-- A writer with a fixed first symbol never begins with another one. -/
theorem BeginsWith.never {symbol other : β} {write : α → List β}
    (begins : BeginsWith symbol write) (different : symbol ≠ other) :
    NeverBegins other write := by
  intro value
  obtain ⟨rest, written⟩ := begins value
  exact ⟨symbol, rest, written, different⟩

/-- Values written one behind the other up to a closing symbol determine the sequence. The
induction is on the first sequence; the closing symbol begins no value, so both sequences end at
the same place. -/
theorem sequence_closed {write : α → List β} (code : SelfDelimiting write) (close : β)
    (apart : NeverBegins close write) :
    ∀ (left right : List α) (leftRest rightRest : List β),
      left.flatMap write ++ close :: leftRest = right.flatMap write ++ close :: rightRest →
        left = right ∧ leftRest = rightRest := by
  intro left
  induction left with
  | nil =>
    intro right leftRest rightRest same
    cases right with
    | nil => exact ⟨rfl, List.tail_eq_of_cons_eq same⟩
    | cons item right =>
      obtain ⟨first, rest, written, distinct⟩ := apart item
      simp only [List.flatMap_nil, List.nil_append, List.flatMap_cons, written, List.cons_append,
        List.cons.injEq] at same
      exact absurd same.1.symm distinct
  | cons item left inductionHypothesis =>
    intro right leftRest rightRest same
    cases right with
    | nil =>
      obtain ⟨first, rest, written, distinct⟩ := apart item
      simp only [List.flatMap_nil, List.nil_append, List.flatMap_cons, written, List.cons_append,
        List.cons.injEq] at same
      exact absurd same.1 distinct
    | cons other right =>
      simp only [List.flatMap_cons, List.append_assoc] at same
      obtain ⟨sameItem, remaining⟩ := code _ _ _ _ same
      obtain ⟨sameItems, sameRest⟩ := inductionHypothesis _ _ _ remaining
      exact ⟨by rw [sameItem, sameItems], sameRest⟩

/-- The items in order, with a separator before each item but the first. -/
def separated (comma : β) (write : α → List β) : List α → List β
  | [] => []
  | first :: rest => write first ++ rest.flatMap fun item => comma :: write item

/-- Values written one behind the other determine the sequence. No value is written as nothing,
so the end of one sequence is the end of the other. -/
theorem sequence_injective {write : α → List β} (code : SelfDelimiting write)
    (visible : ∀ value, write value ≠ []) : Function.Injective (List.flatMap write) := by
  intro left
  induction left with
  | nil =>
    intro right same
    cases right with
    | nil => rfl
    | cons item right =>
      rw [List.flatMap_nil, List.flatMap_cons] at same
      exact absurd (List.append_eq_nil_iff.mp same.symm).1 (visible item)
  | cons item left inductionHypothesis =>
    intro right same
    cases right with
    | nil =>
      rw [List.flatMap_nil, List.flatMap_cons] at same
      exact absurd (List.append_eq_nil_iff.mp same).1 (visible item)
    | cons other right =>
      rw [List.flatMap_cons, List.flatMap_cons] at same
      obtain ⟨sameItem, remaining⟩ := code _ _ _ _ same
      rw [sameItem, inductionHypothesis remaining]

/-- Writing the items of a converted list. -/
theorem separated_map {γ : Type*} (comma : β) (write : α → List β) (convert : γ → α)
    (items : List γ) :
    separated comma write (items.map convert) =
      separated comma (fun item => write (convert item)) items := by
  cases items with
  | nil => rfl
  | cons first rest => rw [List.map_cons, separated, separated, List.flatMap_map]

/-- Two writers that agree on the items write the same sequence. It is stated for the items of
the list only, as the writers may differ elsewhere. -/
theorem separated_congr (comma : β) {write other : α → List β} (items : List α)
    (agree : ∀ item ∈ items, write item = other item) :
    separated comma write items = separated comma other items := by
  cases items with
  | nil => rfl
  | cons first rest =>
    obtain ⟨agreeFirst, agreeRest⟩ := List.forall_mem_cons.mp agree
    rw [separated, separated, agreeFirst,
      List.flatMap_congr fun item member => congrArg (comma :: ·) (agreeRest item member)]

section Items

variable {Stop : β → Prop} {write : α → List β} {comma close : β}

/-- The output for one value, followed by a stopping symbol, determines it and the rest. -/
def TerminatedAt (Stop : β → Prop) (write : α → List β) (left : α) : Prop :=
  ∀ right leftStop rightStop leftRest rightRest, Stop leftStop → Stop rightStop →
    write left ++ leftStop :: leftRest = write right ++ rightStop :: rightRest →
      left = right ∧ leftStop :: leftRest = rightStop :: rightRest

/-- What follows an item of a sequence begins with a stopping symbol. -/
theorem followers_stop (write : α → List β) (commaStops : Stop comma) (closeStops : Stop close)
    (items : List α) (rest : List β) :
    ∃ stop tail, Stop stop ∧
      items.flatMap (fun item => comma :: write item) ++ close :: rest = stop :: tail := by
  cases items with
  | nil => exact ⟨close, rest, closeStops, rfl⟩
  | cons item items => exact ⟨comma, _, commaStops, rfl⟩

/-- The items behind the first one, each ended by what follows it: the comma of the next item or
the closing symbol. -/
theorem terminated_followers_closed (different : comma ≠ close) (commaStops : Stop comma)
    (closeStops : Stop close) (left : List α)
    (each : ∀ item ∈ left, TerminatedAt Stop write item) :
    ∀ (right : List α) (leftRest rightRest : List β),
      left.flatMap (fun item => comma :: write item) ++ close :: leftRest =
        right.flatMap (fun item => comma :: write item) ++ close :: rightRest →
          left = right ∧ leftRest = rightRest := by
  induction left with
  | nil =>
    intro right leftRest rightRest same
    cases right with
    | nil => exact ⟨rfl, List.tail_eq_of_cons_eq same⟩
    | cons item right => exact absurd (List.head_eq_of_cons_eq same).symm different
  | cons item left inductionHypothesis =>
    intro right leftRest rightRest same
    obtain ⟨terminated, terminatedRest⟩ := List.forall_mem_cons.mp each
    cases right with
    | nil => exact absurd (List.head_eq_of_cons_eq same) different
    | cons other right =>
      obtain ⟨leftStop, leftTail, leftStops, leftFollows⟩ :=
        followers_stop write commaStops closeStops left leftRest
      obtain ⟨rightStop, rightTail, rightStops, rightFollows⟩ :=
        followers_stop write commaStops closeStops right rightRest
      simp only [List.flatMap_cons, List.cons_append, List.append_assoc, List.cons.injEq,
        true_and, leftFollows, rightFollows] at same
      obtain ⟨sameItem, remaining⟩ := terminated _ _ _ _ _ leftStops rightStops same
      rw [← leftFollows, ← rightFollows] at remaining
      obtain ⟨sameItems, sameRest⟩ := inductionHypothesis terminatedRest _ _ _ remaining
      exact ⟨by rw [sameItem, sameItems], sameRest⟩

/-- A separated sequence of items, each ended by what follows it, determines the items. With
a comma put in front of the first item all items are alike, and the lemma about followers
applies. -/
theorem terminated_separated_closed (different : comma ≠ close) (commaStops : Stop comma)
    (closeStops : Stop close) (apart : NeverBegins close write) {left : List α}
    (each : ∀ item ∈ left, TerminatedAt Stop write item) {right : List α}
    {leftRest rightRest : List β}
    (same : separated comma write left ++ close :: leftRest =
      separated comma write right ++ close :: rightRest) :
    left = right ∧ leftRest = rightRest := by
  cases left with
  | nil =>
    cases right with
    | nil => exact ⟨rfl, List.tail_eq_of_cons_eq same⟩
    | cons item right =>
      obtain ⟨first, rest, written, distinct⟩ := apart item
      simp only [separated, written, List.nil_append, List.cons_append, List.cons.injEq] at same
      exact absurd same.1.symm distinct
  | cons item left =>
    cases right with
    | nil =>
      obtain ⟨first, rest, written, distinct⟩ := apart item
      simp only [separated, written, List.nil_append, List.cons_append, List.cons.injEq] at same
      exact absurd same.1 distinct
    | cons other right =>
      -- with a comma in front the first items are like all others
      refine terminated_followers_closed different commaStops closeStops (item :: left) each
        (other :: right) leftRest rightRest ?_
      rw [List.flatMap_cons, List.flatMap_cons]
      exact congrArg (comma :: ·) same

/-- The items behind the first one, up to a closing symbol. -/
theorem followers_closed (code : SelfDelimiting write) (comma close : β)
    (different : comma ≠ close) (left right : List α) (leftRest rightRest : List β)
    (same : left.flatMap (fun item => comma :: write item) ++ close :: leftRest =
      right.flatMap (fun item => comma :: write item) ++ close :: rightRest) :
    left = right ∧ leftRest = rightRest :=
  terminated_followers_closed different trivial trivial left
    (fun item _ => code.terminated (fun _ => True) item) right leftRest rightRest same

end Items

end Library.PrefixCode
