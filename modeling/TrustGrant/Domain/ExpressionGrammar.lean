import TrustGrant.Domain.SelectorExpression
import Mathlib.Tactic.SplitIfs

/-!
# The grammar of selector expressions

An expression is written as the name of its predicate, followed by its argument in quotes
and parentheses, with white space allowed around the parentheses' content and before it.
In quotes every character stands for itself but for five escapes. The parser accepts
exactly these texts, within the size limit, and reads what they stand for.
-/

namespace TrustGrant

open Rust Limits Library

/-- `Display` of a predicate. -/
def SelectorPredicate.name : SelectorPredicate → String
  | .equals => "equals"
  | .startsWith => "startsWith"
  | .endsWith => "endsWith"
  | .contains => "contains"

/-- What may follow a backslash, and the character that is meant. Nothing else may follow it. -/
inductive Escape : Char → Char → Prop where
  | backslash : Escape '\\' '\\'
  | quote : Escape '"' '"'
  | newline : Escape 'n' '\n'
  | carriageReturn : Escape 'r' '\r'
  | tab : Escape 't' '\t'

/-- What may stand between quotes, and the argument that is meant. A derivation is how a body is
read from left to right. -/
inductive QuotedBody : List Char → List Char → Prop where
  | empty : QuotedBody [] []
  | plain (character : Char) (body argument : List Char) (notQuote : character ≠ '"')
      (notBackslash : character ≠ '\\') (visible : Text.isControl character = false)
      (rest : QuotedBody body argument) : QuotedBody (character :: body) (character :: argument)
  | escape (escaped character : Char) (body argument : List Char)
      (meant : Escape escaped character) (rest : QuotedBody body argument) :
      QuotedBody ('\\' :: escaped :: body) (character :: argument)

/-- The texts of an expression, with its predicate and its argument. White space may stand in the
places that the constructor names. -/
inductive ExpressionGrammar : List Char → SelectorPredicate → List Char → Prop where
  | apply (predicate : SelectorPredicate) (beforeParenthesis beforeQuote afterQuote : List Char)
      (body argument : List Char) (blankParenthesis : Text.IsBlank beforeParenthesis)
      (blankQuote : Text.IsBlank beforeQuote) (blankEnd : Text.IsBlank afterQuote)
      (quoted : QuotedBody body argument) :
      ExpressionGrammar (predicate.name.toList ++ (beforeParenthesis ++
        '(' :: (beforeQuote ++ ('"' :: body ++ ['"'] ++ afterQuote) ++ [')']))) predicate argument

/-- The table of escapes is the relation of the grammar. Both list the same five pairs, so each
direction is a case split. -/
theorem unescape_some_iff (escaped character : Char) :
    unescape escaped = some character ↔ Escape escaped character := by
  constructor
  · intro stands
    unfold unescape at stands
    split_ifs at stands with isBackslash isQuote isNewline isReturn isTab
    all_goals
      cases stands
      subst_vars
      constructor
  · rintro (_ | _ | _ | _ | _) <;> rfl

/-- A quoted argument is read exactly when it is a body, as the argument meant. One direction
follows the recursion of the reader, the other one the derivation of the body. -/
theorem unescape_argument_ok_iff (body argument : List Char) :
    unescapeArgument body = .ok argument ↔ QuotedBody body argument := by
  constructor
  · intro read
    fun_induction unescapeArgument body generalizing argument with
    | case1 =>
      cases read
      exact .empty
    | case2 => cases read
    | case3 => cases read
    | case4 escaped rest inductionHypothesis =>
      simp only [Results.bind_ok_iff, Results.ok_or_ok_iff, Results.pure_ok_iff] at read
      obtain ⟨character, stands, parsed, readRest, rfl⟩ := read
      exact .escape escaped character rest parsed ((unescape_some_iff _ _).mp stands)
        (inductionHypothesis parsed readRest)
    | case5 character rest notQuote notLone notEscape inductionHypothesis =>
      simp only [Results.bind_ok_iff, Results.reject_if_ok_iff, Results.pure_ok_iff, exists_const,
        Bool.not_eq_true] at read
      obtain ⟨visible, parsed, readRest, rfl⟩ := read
      have notBackslash : character ≠ '\\' := by
        rintro rfl
        cases rest with
        | nil => exact notLone rfl rfl
        | cons escaped later => exact notEscape escaped later rfl rfl
      exact .plain character rest parsed notQuote notBackslash visible
        (inductionHypothesis parsed readRest)
  · intro quoted
    induction quoted with
    | empty => rfl
    | plain character body argument notQuote notBackslash visible rest inductionHypothesis =>
      rw [unescapeArgument]
      · simp [visible, inductionHypothesis, Results.rejectIf, bind, Except.bind, pure, Except.pure]
      · exact notQuote
      · exact fun isBackslash => absurd isBackslash notBackslash
      · exact fun _ _ isBackslash => absurd isBackslash notBackslash
    | escape escaped character body argument meant rest inductionHypothesis =>
      rw [unescapeArgument, (unescape_some_iff _ _).mpr meant, inductionHypothesis]
      rfl

/-- What is meant is no longer than what is written. The induction is on the derivation; an
escape is written with two characters and means one. -/
theorem QuotedBody.argument_length {body argument : List Char} (quoted : QuotedBody body argument) :
    Text.len (String.ofList argument) ≤ Text.len (String.ofList body) := by
  induction quoted with
  | empty => exact le_rfl
  | plain character body argument notQuote notBackslash visible rest inductionHypothesis =>
    rw [Text.len_of_list_cons, Text.len_of_list_cons]
    omega
  | escape escaped character body argument meant rest inductionHypothesis =>
    have small : character.utf8Size = 1 := by cases meant <;> rfl
    have backslash : '\\'.utf8Size = 1 := rfl
    rw [Text.len_of_list_cons, Text.len_of_list_cons, Text.len_of_list_cons]
    omega

namespace SelectorExpression

/-- The name of a predicate is read back. -/
theorem predicate_parse_ok_iff (value : String) (predicate : SelectorPredicate) :
    SelectorPredicate.parse value = .ok predicate ↔ value = predicate.name := by
  unfold SelectorPredicate.parse
  split_ifs with isEquals isStartsWith isEndsWith isContains <;>
    cases predicate <;> simp_all [SelectorPredicate.name]

/-- The name of a predicate is a token without a parenthesis. -/
theorem name_begins (predicate : SelectorPredicate) :
    ∃ first rest, predicate.name.toList = first :: rest ∧ Text.isWhitespace first = false := by
  cases predicate <;> exact ⟨_, _, rfl, by decide⟩

/-- No name of a predicate has a parenthesis, so the first one in a text ends the name. -/
theorem name_unparenthesized (predicate : SelectorPredicate) :
    ∀ character ∈ predicate.name.toList, decide (character ≠ '(') = true := by
  rw [← List.all_eq_true]
  cases predicate <;> decide

/-- A name has no white space around it. -/
theorem trim_name (predicate : SelectorPredicate) :
    Text.trim predicate.name = predicate.name := by
  cases predicate <;> decide

/-- White space contains no parenthesis. -/
theorem blank_unparenthesized (blanks : List Char) (blank : Text.IsBlank blanks) :
    ∀ character ∈ blanks, decide (character ≠ '(') = true := by
  intro character member
  rw [decide_eq_true_eq]
  rintro rfl
  exact absurd (blank _ member) (by decide)

/-- What the parser reads was written in the grammar. Each step of the parser is inverted in
turn: the text splits at its first parenthesis, the name in front is a predicate, and what is
between the quotation marks is a body. -/
theorem grammar_of_parse_parts (value : String) (parts : SelectorPredicate × String)
    (accepted : parseParts value = .ok parts) :
    Text.len (Text.trim value) ≤ maxSelectorExpressionBytes ∧
      ExpressionGrammar (Text.trim value).toList parts.1 parts.2.toList := by
  simp only [parseParts, parseQuotedArgument, Results.bind_ok_iff, Results.pure_ok_iff,
    ensure_string_limit_ok_iff, Results.reject_if_ok_iff, Results.ok_or_ok_iff, exists_const,
    Text.strip_both_some_iff, predicate_parse_ok_iff, String.toList_ofList] at accepted
  obtain ⟨-, within, -, -, -, predicate, named, inner, bracketed, argument, ⟨body, quoted, parsed,
    read, -, rfl⟩, rfl⟩ := accepted
  refine ⟨within, ?_⟩
  obtain ⟨front, beforeParenthesis, splitName, blankFront, blankParenthesis⟩ :=
    Text.trim_split (Text.before (Text.trim value) '(')
  obtain ⟨beforeQuote, afterQuote, splitInner, blankQuote, blankEnd⟩ := Text.trim_split inner
  rw [Text.before, String.toList_ofList, ← Text.before, named] at splitName
  have whole := List.takeWhile_append_dropWhile (p := (· ≠ '(')) (l := (Text.trim value).toList)
  rw [splitName, bracketed, splitInner, quoted] at whole
  have nothing : front = [] := by
    cases front with
    | nil => rfl
    | cons first rest =>
      have visible := Text.trim_begins value first _ whole.symm
      rw [blankFront first List.mem_cons_self] at visible
      cases visible
  subst nothing
  have derived := ExpressionGrammar.apply predicate beforeParenthesis beforeQuote afterQuote
    body.toList parsed blankParenthesis blankQuote blankEnd
    ((unescape_argument_ok_iff _ _).mp read)
  rw [String.toList_ofList, ← whole]
  simpa using derived

/-- What is written in the grammar, within the limit, is read by the parser. The derivation gives
the parts, and trimming restores each of them, because neither a name nor a quoted body begins or
ends with white space. -/
theorem parse_parts_of_grammar (value : String) (predicate : SelectorPredicate)
    (argument : List Char) (within : Text.len (Text.trim value) ≤ maxSelectorExpressionBytes)
    (written : ExpressionGrammar (Text.trim value).toList predicate argument) :
    parseParts value = .ok (predicate, String.ofList argument) := by
  generalize wholeText : (Text.trim value).toList = whole at written
  cases written with
  | apply predicate beforeParenthesis beforeQuote afterQuote body argument blankParenthesis
      blankQuote blankEnd quoted =>
    have unparenthesized : ∀ character ∈ predicate.name.toList ++ beforeParenthesis,
        decide (character ≠ '(') = true :=
      List.forall_mem_append.mpr
        ⟨name_unparenthesized predicate, blank_unparenthesized _ blankParenthesis⟩
    rw [← List.append_assoc] at wholeText
    let quotedArgument := String.ofList ('"' :: body ++ ['"'])
    let inner := String.ofList (beforeQuote ++ (quotedArgument.toList ++ afterQuote))
    have before : Text.trim (Text.before (Text.trim value) '(') = predicate.name := by
      have around := Text.trim_around [] beforeParenthesis predicate.name (by simp [Text.IsBlank])
        blankParenthesis
      rw [Text.before, wholeText, List.takeWhile_append_of_pos unparenthesized]
      simpa [trim_name] using around
    have after : (Text.trim value).toList.dropWhile (· ≠ '(') = '(' :: inner.toList ++ [')'] := by
      rw [wholeText, List.dropWhile_append_of_pos unparenthesized]
      simp [inner, quotedArgument]
    have trimmed : Text.trim inner = quotedArgument := by
      rw [Text.trim_around _ _ _ blankQuote blankEnd,
        Text.trim_between _ _ _ (by decide) (by decide)]
    have short : Text.len (String.ofList argument) ≤ maxSelectorExpressionBytes := by
      have inside : body.Sublist (Text.trim value).toList := by
        rw [wholeText]
        refine .trans ?_ (List.sublist_append_right _ _)
        exact List.IsInfix.sublist ⟨'(' :: (beforeQuote ++ ['"']), '"' :: (afterQuote ++ [')']),
          by simp⟩
      have written := Text.len_le_of_sublist (String.ofList body) (Text.trim value)
        (by rwa [String.toList_ofList])
      exact le_trans quoted.argument_length (le_trans written within)
    simp only [parseParts, parseQuotedArgument, Results.bind_ok_iff, Results.pure_ok_iff,
      ensure_string_limit_ok_iff, Results.reject_if_ok_iff, Results.ok_or_ok_iff, exists_const,
      Text.strip_both_some_iff, predicate_parse_ok_iff, before, after, String.toList_ofList]
    refine ⟨?_, within, Text.len (Text.before (Text.trim value) '('), ?_, ?_, predicate, rfl,
      inner, rfl, String.ofList argument, ⟨String.ofList body, ?_, argument, ?_, short, rfl⟩, rfl⟩
    · simp [Text.isEmpty, wholeText]
    · rw [Text.find, if_pos (by simp [wholeText])]
    · have ending : [')'] <:+ (Text.trim value).toList :=
        ⟨predicate.name.toList ++ beforeParenthesis ++ '(' :: inner.toList,
          by rw [wholeText]; simp [inner, quotedArgument]⟩
      simpa [Text.endsWith] using ending
    · rw [trimmed, String.toList_ofList, String.toList_ofList]
    · rw [String.toList_ofList]
      exact (unescape_argument_ok_iff _ _).mpr quoted

end SelectorExpression

end TrustGrant
