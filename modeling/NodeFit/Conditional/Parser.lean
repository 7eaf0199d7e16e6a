import NodeFit.Conditional
import NodeFit.Text.Blank

/-!
# NodeFit.Conditional.Parser

Reading conditionals.

A conditional is the words of its text: call, operator, literal.  Two words are
an operator and a literal for the number of nodes.  A call is a function and,
between the first opening bracket and the final closing one, a property.

The words are all that counts of a text.  Of several faults the number of words is reported first,
then the operator and then the call; the literal has no form that it could miss.
-/

namespace NodeFit.Conditional

/-- The call that two words leave out. -/
def defaultCall : List Char := ['c', 'o', 'u', 'n', 't', '(', ')']

/-- The words with the call that the short form leaves out. -/
def completed : List (List Char) → List (List Char)
  | [operator, literal] => [defaultCall, operator, literal]
  | words => words

/-- Cuts a call into the name of its function and what stands in brackets. -/
def splitCall? (call : List Char) : Option (List Char × List Char) :=
  if call.getLast? = some ')' then
    match call.dropLast.dropWhile (· != '(') with
    | [] => none
    | _ :: property => some (call.dropLast.takeWhile (· != '('), property)
  else
    none

/-- Reads a conditional from its words. -/
def ofWords : List (List Char) → Except ConditionalProblem Conditional
  | [call, operator, literal] =>
    match ComparisonOperator.ofToken? (String.ofList operator) with
    | none => .error (.unknownOperator (String.ofList operator))
    | some op =>
      match splitCall? call with
      | none => .error .pattern
      | some (function, property) =>
        .ok ⟨String.ofList function, String.ofList property, op, Literal.ofToken literal⟩
  | _ => .error .malformed

/-- Reads a conditional. -/
def parse (text : String) : Except ConditionalProblem Conditional :=
  ofWords (completed (Text.words text.toList))

end NodeFit.Conditional
