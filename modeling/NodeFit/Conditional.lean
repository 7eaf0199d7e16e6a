import NodeFit.Quantity
import NodeFit.Text.Decimal

/-!
# NodeFit.Conditional

Conditionals: an aggregate over nodes compared with a literal, such as
`min(cpuCapacity) >= 4`.

A conditional keeps the name of its function as it was written; whether there is
such a function is asked when the conditional is evaluated.  The same goes for the
literal: a token with letters in it is kept as text, and only an aggregate
that is an amount reads it as a quantity.

Equality has three spellings, which `ComparisonOperator.ofToken?` makes one, so that
a printed conditional need not be the text that was read.  Whatever goes wrong is
reported together with that text (`ConditionalError`).
-/

namespace NodeFit

/-- How the two sides of a conditional are compared. -/
inductive ComparisonOperator where
  | equal
  | less
  | greater
  | lessOrEqual
  | greaterOrEqual
deriving DecidableEq, Repr

namespace ComparisonOperator

/-- The operator of a token.  Equality has three spellings. -/
def ofToken? : String → Option ComparisonOperator
  | "=" => some equal
  | "==" => some equal
  | "===" => some equal
  | "<" => some less
  | ">" => some greater
  | "<=" => some lessOrEqual
  | ">=" => some greaterOrEqual
  | _ => none

/-- The token that an operator is written with. -/
def symbol : ComparisonOperator → String
  | equal => "=="
  | less => "<"
  | greater => ">"
  | lessOrEqual => "<="
  | greaterOrEqual => ">="

/-- Whether an operator holds between two values in the given order. -/
def holds : ComparisonOperator → Ordering → Bool
  | equal, o => o == .eq
  | less, o => o == .lt
  | greater, o => o == .gt
  | lessOrEqual, o => o != .gt
  | greaterOrEqual, o => o != .lt

/-- The token that an operator is written with is read as that operator. -/
@[simp] theorem ofToken?_symbol (op : ComparisonOperator) : ofToken? op.symbol = some op := by
  cases op <;> rfl

end ComparisonOperator

/-- What an aggregate is compared with. -/
inductive Literal where
  /-- An integer of 64 bits. -/
  | integer (n : Int)
  /-- Anything else; it is read as a quantity when it is needed. -/
  | quantity (text : String)
deriving DecidableEq, Repr

namespace Literal

/-- The literal of a token. -/
def ofToken (token : List Char) : Literal :=
  match Text.readSigned? 64 token with
  | some n => integer n
  | none => quantity (String.ofList token)

def text : Literal → String
  | integer n => Text.decimal n
  | quantity text => text

end Literal

/-- A comparison of an aggregate with a literal. -/
structure Conditional where
  /-- The function's name as written. -/
  function : String
  /-- The property's name as written. -/
  property : String
  operator : ComparisonOperator
  literal : Literal
deriving DecidableEq, Repr

def Conditional.text (c : Conditional) : String :=
  c.function ++ "(" ++ c.property ++ ") " ++ c.operator.symbol ++ " " ++ c.literal.text

/-! ## Errors -/

/-- Why a conditional has no truth value. -/
inductive ConditionalProblem where
  /-- There are not two or three words. -/
  | malformed
  /-- The left side is not a call. -/
  | pattern
  /-- The middle word is no operator. -/
  | unknownOperator (token : String)
  /-- There is no function of the name. -/
  | unknownFunction (name : String)
  /-- A number of nodes cannot be compared with the literal. -/
  | typeMismatch (literal : String)
  /-- No node reports the property, so that there is no extreme amount. -/
  | noValue (property : String)
  /-- The literal is no quantity. -/
  | quantity (error : QuantityError)
deriving DecidableEq, Repr

namespace ConditionalProblem

def message : ConditionalProblem → String
  | malformed => "unable to parse nodeResources conditional"
  | pattern => "conditional does not match pattern of function(property?)"
  | unknownOperator token =>
    "unexpected operator " ++ Text.quoted token ++ " in nodeResources conditional"
  | unknownFunction name => "unknown function " ++ Text.quoted name
  | typeMismatch literal => "cannot compare a count with quantity " ++ Text.quoted literal
  | noValue property => "no matching node reports " ++ Text.quoted property
  | quantity error => "invalid quantity: " ++ error.message

/-- Whether the text itself is at fault, whatever the nodes are. -/
def isParseError : ConditionalProblem → Bool
  | malformed => true
  | pattern => true
  | unknownOperator _ => true
  | _ => false

end ConditionalProblem

/-- A conditional, as written, that has no truth value. -/
structure ConditionalError where
  conditional : String
  problem : ConditionalProblem
deriving DecidableEq, Repr

def ConditionalError.message (e : ConditionalError) : String :=
  "failed to evaluate " ++ Text.quoted e.conditional ++ ": " ++ e.problem.message

end NodeFit
