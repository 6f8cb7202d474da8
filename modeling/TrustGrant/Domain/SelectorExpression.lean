import TrustGrant.Error.Errors

/-!
# Selector expressions

An expression is a predicate applied to one quoted argument. The parser reads the
predicate up to the first parenthesis and unescapes the argument character by
character; the argument it accepts respects the size limit.
-/

namespace TrustGrant

open Rust Limits Library

/-- The comparisons an expression can make. -/
inductive SelectorPredicate where
  | equals
  | startsWith
  | endsWith
  | contains
deriving DecidableEq

/-- The predicate of a name; there are no others. -/
def SelectorPredicate.parse (value : String) : Except TrustGrantError SelectorPredicate :=
  if value = "equals" then .ok .equals
  else if value = "startsWith" then .ok .startsWith
  else if value = "endsWith" then .ok .endsWith
  else if value = "contains" then .ok .contains
  else .error (.unsupportedSelectorExpressionPredicate value)

/-- The character an escape stands for. -/
def unescape (escaped : Char) : Option Char :=
  if escaped = '\\' then some '\\'
  else if escaped = '"' then some '"'
  else if escaped = 'n' then some '\n'
  else if escaped = 'r' then some '\r'
  else if escaped = 't' then some '\t'
  else none

/-- Read the inside of a quoted argument: escapes are replaced, and a bare quote or a
control character is an error. -/
def unescapeArgument : List Char → Except TrustGrantError (List Char)
  | [] => .ok []
  | '"' :: _ => .error .invalidSelectorExpressionSyntax
  | ['\\'] => .error .invalidSelectorExpressionSyntax
  | '\\' :: escaped :: rest => do
    let character ← Results.okOr (unescape escaped) .invalidSelectorExpressionSyntax
    let parsed ← unescapeArgument rest
    return character :: parsed
  | character :: rest => do
    Results.rejectIf (Text.isControl character) .invalidSelectorExpressionSyntax
    let parsed ← unescapeArgument rest
    return character :: parsed

/-- Read a quoted argument. -/
def parseQuotedArgument (value : String) : Except TrustGrantError String := do
  let inner ← Results.okOr (Text.stripBoth value '"' '"') .invalidSelectorExpressionSyntax
  let parsed ← unescapeArgument inner.toList
  ensureStringLimit "selector.expression" (String.ofList parsed) maxSelectorExpressionBytes
  return String.ofList parsed

/-- A predicate with its argument. -/
structure SelectorExpression where
  predicate : SelectorPredicate
  argument : String
  withinLimit : Text.len argument ≤ maxSelectorExpressionBytes
deriving DecidableEq

namespace SelectorExpression

/-- The checks of the parser in their order. -/
def parseParts (value : String) : Except TrustGrantError (SelectorPredicate × String) := do
  let value := Text.trim value
  Results.rejectIf (Text.isEmpty value) (.emptyStringField "selector.expression")
  ensureStringLimit "selector.expression" value maxSelectorExpressionBytes
  let _ ← Results.okOr (Text.find value '(') .invalidSelectorExpressionSyntax
  Results.rejectIf (¬ Text.endsWith value ")") .invalidSelectorExpressionSyntax
  let predicate ← SelectorPredicate.parse (Text.trim (Text.before value '('))
  let inner ← Results.okOr
    (Text.stripBoth (String.ofList (value.toList.dropWhile (· ≠ '('))) '(' ')')
    .invalidSelectorExpressionSyntax
  let argument ← parseQuotedArgument (Text.trim inner)
  return (predicate, argument)

/-- A quoted argument that was read respects the size limit. -/
theorem quoted_argument_within (value argument : String)
    (read : parseQuotedArgument value = .ok argument) :
    Text.len argument ≤ maxSelectorExpressionBytes := by
  simp only [parseQuotedArgument, Results.bind_ok_iff, ensure_string_limit_ok_iff,
    Results.pure_ok_iff, exists_const] at read
  obtain ⟨inner, -, parsed, -, within, rfl⟩ := read
  exact within

/-- The argument of an accepted expression respects the size limit. -/
theorem parse_parts_within (value : String) (parts : SelectorPredicate × String)
    (accepted : parseParts value = .ok parts) :
    Text.len parts.2 ≤ maxSelectorExpressionBytes := by
  simp only [parseParts, Results.bind_ok_iff, Results.pure_ok_iff] at accepted
  obtain ⟨-, -, -, -, -, -, -, -, predicate, -, inner, -, argument, read, rfl⟩ := accepted
  exact quoted_argument_within _ argument read

/-- Parse one expression. The limit is checked on the trimmed text, before anything else. -/
def parse (value : String) : Except TrustGrantError SelectorExpression :=
  match accepted : parseParts value with
  | .error problem => .error problem
  | .ok (predicate, argument) => .ok ⟨predicate, argument, parse_parts_within value _ accepted⟩

/-- Whether a candidate value satisfies the expression. The comparison is one of texts, case
included. -/
def matchesCandidate (expression : SelectorExpression) (candidate : String) : Bool :=
  match expression.predicate with
  | .equals => candidate == expression.argument
  | .startsWith => Text.startsWith candidate expression.argument
  | .endsWith => Text.endsWith candidate expression.argument
  | .contains => Text.contains candidate expression.argument

end SelectorExpression

end TrustGrant
