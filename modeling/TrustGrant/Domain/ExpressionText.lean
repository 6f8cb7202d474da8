import TrustGrant.Domain.ExpressionGrammar
import Mathlib.Tactic.FinCases

/-!
# The text of selector expressions

An expression is written as its predicate and its argument in quotes, in which quotes,
backslashes and three control characters are escaped. An argument that the parser accepts
was written with exactly these escapes, so writing it again is no longer than what was
read and is read as the same expression.

The main result has two parts: what the parser accepts is what the grammar generates, and
writing an expression gives a text that is read back as it. The grammar is an inductive
relation, so the first part is an induction on the text in one direction and on the
derivation in the other.
-/

namespace TrustGrant

open Rust Limits Library

/-- The form of one character in a quoted argument. -/
def escapeCharacter (character : Char) : List Char :=
  if character = '\\' then ['\\', '\\']
  else if character = '"' then ['\\', '"']
  else if character = '\n' then ['\\', 'n']
  else if character = '\r' then ['\\', 'r']
  else if character = '\t' then ['\\', 't']
  else [character]

/-- The argument of an expression with a backslash before what needs one. -/
def escapeArgument (argument : List Char) : List Char := argument.flatMap escapeCharacter

/-- `Display` of an expression. No white space is written around its parts. -/
def SelectorExpression.toString (expression : SelectorExpression) : String :=
  String.ofList (expression.predicate.name.toList ++
    '(' :: '"' :: escapeArgument expression.argument.toList ++ ['"', ')'])

/-- A character that a quoted argument can stand for: no control character but those that
have an escape. -/
def Quotable (character : Char) : Prop :=
  Text.isControl character = true → character = '\n' ∨ character = '\r' ∨ character = '\t'

/-- What an escape stands for is written as this escape, and it may be quoted. -/
theorem escaped_of_meant (escaped character : Char) (meant : Escape escaped character) :
    escapeCharacter character = ['\\', escaped] ∧ Quotable character := by
  cases meant <;> exact ⟨by decide, by unfold Quotable; decide⟩

/-- A character that is not a control character and needs no escape is written as it is. -/
theorem escape_plain (character : Char) (notQuote : character ≠ '"')
    (notBackslash : character ≠ '\\') (visible : Text.isControl character = false) :
    escapeCharacter character = [character] := by
  have others : ∀ control ∈ ['\n', '\r', '\t'], character ≠ control := by
    rintro control member rfl
    revert visible
    fin_cases member <;> decide
  simp only [List.mem_cons, List.not_mem_nil, or_false, forall_eq_or_imp, forall_eq] at others
  simp [escapeCharacter, notQuote, notBackslash, others]

/-- A body is how its argument is written. The induction is on the derivation; a plain character
is written as itself, an escaped one by its escape, and there is no second way. -/
theorem escaped_of_body (body argument : List Char) (quoted : QuotedBody body argument) :
    body = escapeArgument argument ∧ ∀ character ∈ argument, Quotable character := by
  induction quoted with
  | empty => exact ⟨rfl, by simp⟩
  | plain character body argument notQuote notBackslash visible rest inductionHypothesis =>
    have quotable : Quotable character := fun control => by simp [visible] at control
    refine ⟨?_, List.forall_mem_cons.mpr ⟨quotable, inductionHypothesis.2⟩⟩
    rw [escapeArgument, List.flatMap_cons, escape_plain character notQuote notBackslash visible,
      inductionHypothesis.1]
    rfl
  | escape escaped character body argument meant rest inductionHypothesis =>
    obtain ⟨written, quotable⟩ := escaped_of_meant escaped character meant
    refine ⟨?_, List.forall_mem_cons.mpr ⟨quotable, inductionHypothesis.2⟩⟩
    rw [escapeArgument, List.flatMap_cons, written, inductionHypothesis.1]
    rfl

/-- A character that needs an escape is what this escape means. There are five of them, and the
table is gone through. -/
theorem meant_of_escaped (character : Char) (written : escapeCharacter character ≠ [character]) :
    ∃ escaped, escapeCharacter character = ['\\', escaped] ∧ Escape escaped character := by
  unfold escapeCharacter at written ⊢
  split_ifs at written ⊢ with isBackslash isQuote isNewline isReturn isTab
  · exact ⟨_, rfl, by rw [isBackslash]; exact .backslash⟩
  · exact ⟨_, rfl, by rw [isQuote]; exact .quote⟩
  · exact ⟨_, rfl, by rw [isNewline]; exact .newline⟩
  · exact ⟨_, rfl, by rw [isReturn]; exact .carriageReturn⟩
  · exact ⟨_, rfl, by rw [isTab]; exact .tab⟩
  · exact absurd rfl written

/-- A written argument is a body that means it. A character that needs a backslash gets one, and
every other one is plain, as it is visible and neither quotation mark nor backslash. -/
theorem body_of_escaped (argument : List Char)
    (quotable : ∀ character ∈ argument, Quotable character) :
    QuotedBody (escapeArgument argument) argument := by
  induction argument with
  | nil => exact .empty
  | cons character rest inductionHypothesis =>
    obtain ⟨firstQuotable, restQuotable⟩ := List.forall_mem_cons.mp quotable
    have restBody := inductionHypothesis restQuotable
    rw [escapeArgument] at restBody
    rw [escapeArgument, List.flatMap_cons]
    by_cases plain : escapeCharacter character = [character]
    · have notQuote : character ≠ '"' := by
        rintro rfl
        exact absurd plain (by decide)
      have notBackslash : character ≠ '\\' := by
        rintro rfl
        exact absurd plain (by decide)
      have visible : Text.isControl character = false := by
        cases control : Text.isControl character with
        | false => rfl
        | true =>
          rcases firstQuotable control with rfl | rfl | rfl <;> exact absurd plain (by decide)
      rw [plain]
      exact .plain character _ rest notQuote notBackslash visible restBody
    · obtain ⟨escaped, written, meant⟩ := meant_of_escaped character plain
      rw [written]
      exact .escape escaped character _ rest meant restBody

namespace SelectorExpression

/-- An expression that the parser can have produced: its argument can be quoted, and its text
is within the limit. -/
structure Printable (expression : SelectorExpression) : Prop where
  quotable : ∀ character ∈ expression.argument.toList, Quotable character
  short : Text.len expression.toString ≤ maxSelectorExpressionBytes

/-- An expression is read exactly when its parts are. The limit on the argument is a proof inside
the expression, and the parts are all that is compared. -/
theorem parse_ok_iff_parts (value : String) (expression : SelectorExpression) :
    parse value = .ok expression ↔
      parseParts value = .ok (expression.predicate, expression.argument) := by
  unfold parse
  split
  · rename_i problem failed
    simp [failed]
  · rename_i predicate argument read
    constructor
    · intro accepted
      cases accepted
      exact read
    · intro accepted
      rw [read] at accepted
      cases accepted
      rfl

/-- The text of an expression has a name, then its argument in quotes and parentheses. -/
theorem to_string_parts (expression : SelectorExpression) :
    expression.toString.toList = expression.predicate.name.toList ++
      '(' :: ('"' :: escapeArgument expression.argument.toList ++ ['"', ')']) := by
  simp [toString, String.toList_ofList]

/-- The text of an expression has no blanks around it. It begins with the first character of a
name and ends with a parenthesis. -/
theorem trim_to_string (expression : SelectorExpression) :
    Text.trim expression.toString = expression.toString := by
  obtain ⟨first, rest, named, visible⟩ := name_begins expression.predicate
  have ends : expression.toString = String.ofList (first :: (rest ++
      '(' :: '"' :: escapeArgument expression.argument.toList ++ ['"']) ++ [')']) := by
    rw [← String.toList_inj, to_string_parts, String.toList_ofList, named]
    simp
  rw [ends, Text.trim_between _ _ _ visible (by decide)]

/-- The text of an expression leaves out the white space it was read with. What is left is a
subsequence of the text, so it is no longer and passes the limit again. -/
theorem to_string_within (expression : SelectorExpression) (text : List Char)
    (written : ExpressionGrammar text expression.predicate expression.argument.toList) :
    expression.toString.toList.Sublist text ∧
      ∀ character ∈ expression.argument.toList, Quotable character := by
  rw [to_string_parts]
  generalize expression.predicate = predicate, expression.argument.toList = argument at written
  cases written with
  | apply predicate beforeParenthesis beforeQuote afterQuote body argument blankParenthesis
      blankQuote blankEnd quoted =>
    obtain ⟨rfl, quotable⟩ := escaped_of_body body argument quoted
    refine ⟨.append (.refl _) (.trans ?_ (List.sublist_append_right _ _)), quotable⟩
    have inside := (List.sublist_append_left ('"' :: escapeArgument argument ++ ['"'])
      afterQuote).trans (List.sublist_append_right beforeQuote _)
    have closed := inside.append_right [')']
    rw [List.append_assoc] at closed
    exact closed.cons_cons '('

/-- An accepted expression is printable. -/
theorem printable_of_parse (value : String) (expression : SelectorExpression)
    (accepted : parse value = .ok expression) : expression.Printable := by
  obtain ⟨within, written⟩ :=
    grammar_of_parse_parts value _ ((parse_ok_iff_parts value expression).mp accepted)
  obtain ⟨inside, quotable⟩ := to_string_within expression _ written
  exact ⟨quotable, le_trans (Text.len_le_of_sublist _ _ inside) within⟩

/-- The text of a printable expression is read back. It is written in the grammar, has nothing to
trim and is within the limit, so the parser returns its parts. -/
theorem parse_to_string (expression : SelectorExpression) (printable : expression.Printable) :
    parse expression.toString = .ok expression := by
  have written := ExpressionGrammar.apply expression.predicate [] [] [] _ _
    (by simp [Text.IsBlank]) (by simp [Text.IsBlank]) (by simp [Text.IsBlank])
    (body_of_escaped expression.argument.toList printable.quotable)
  have text : (Text.trim expression.toString).toList = expression.predicate.name.toList ++ ([] ++
      '(' :: ([] ++ ('"' :: escapeArgument expression.argument.toList ++ ['"'] ++ []) ++
        [')'])) := by
    rw [trim_to_string, to_string_parts]
    simp
  rw [← text] at written
  have read := parse_parts_of_grammar expression.toString _ _
    (by rw [trim_to_string]; exact printable.short) written
  rw [parse_ok_iff_parts, read, String.ofList_toList]

/-- Parsing accepts exactly the grammar within the size limit, and yields what the text
means. Printing what was parsed gives a text that is no longer and is parsed again as the
same expression, with the same matches.

Proof: one direction inverts the steps of the parser, the other one follows the derivation. A
printed expression is a derivation again, and it has lost only white space. -/
theorem parse_accepts_grammar (value : String) :
    (∀ predicate argument,
      (∃ expression, parse value = .ok expression ∧ expression.predicate = predicate ∧
          expression.argument.toList = argument) ↔
        Text.len (Text.trim value) ≤ maxSelectorExpressionBytes ∧
          ExpressionGrammar (Text.trim value).toList predicate argument) ∧
    ∀ expression, parse value = .ok expression →
      Text.len expression.toString ≤ Text.len (Text.trim value) ∧
        ∃ again, parse expression.toString = .ok again ∧ again = expression ∧
          ∀ candidate,
            again.matchesCandidate candidate = expression.matchesCandidate candidate := by
  constructor
  · intro predicate argument
    constructor
    · rintro ⟨expression, accepted, rfl, rfl⟩
      exact grammar_of_parse_parts value _ ((parse_ok_iff_parts value expression).mp accepted)
    · rintro ⟨within, written⟩
      have read := parse_parts_of_grammar value predicate argument within written
      refine ⟨⟨predicate, String.ofList argument, parse_parts_within value _ read⟩, ?_, rfl, ?_⟩
      · exact (parse_ok_iff_parts value _).mpr read
      · exact String.toList_ofList
  · intro expression accepted
    obtain ⟨-, written⟩ :=
      grammar_of_parse_parts value _ ((parse_ok_iff_parts value expression).mp accepted)
    have printable := printable_of_parse value expression accepted
    exact ⟨Text.len_le_of_sublist _ _ (to_string_within expression _ written).1,
      expression, parse_to_string expression printable, rfl, fun _ => rfl⟩

end SelectorExpression

end TrustGrant
