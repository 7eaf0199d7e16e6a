import NodeFit.Aggregate
import NodeFit.Conditional.Parser
import NodeFit.Quantity.Parser

/-!
# NodeFit.Conditional.Evaluation

The truth of a conditional over some nodes.

A number of nodes is compared with an integer literal only.  An amount is
compared with the quantity of the literal, whether it was written as an integer
or not.  A missing extreme amount is reported before the literal is looked at.

So of two things that are wrong one is reported first: the name of the function, then the lack of
a value, and last the literal.  `compareLiteral` is the whole of the comparison, an order between
a value and a literal or the reason why there is none; the operator only asks which order it is.
-/

namespace NodeFit.Conditional

/-- The order of an amount against a literal given as text. -/
def compareAmount (actual : Quantity) (literal : String) : Except ConditionalProblem Ordering :=
  match Quantity.parse literal with
  | .error e => .error (.quantity e)
  | .ok desired => .ok (actual.compare desired)

/-- The order of an aggregate against the literal of a conditional. -/
def compareLiteral (c : Conditional) : AggregateValue → Except ConditionalProblem Ordering
  | .count nodes =>
    match c.literal with
    | .integer n => .ok (Ord.compare (nodes : Int) n)
    | .quantity text => .error (.typeMismatch text)
  | .noValue => .error (.noValue c.property)
  | .quantity actual => compareAmount actual c.literal.text

/-- The aggregate that a conditional is about. -/
def actual (c : Conditional) (nodes : List ClusterNode) :
    Except ConditionalProblem AggregateValue :=
  match AggregateFunction.ofName? c.function with
  | none => .error (.unknownFunction c.function)
  | some function => .ok (aggregate function c.property nodes)

/-- Whether a conditional holds over some nodes. -/
def evaluate (c : Conditional) (nodes : List ClusterNode) : Except ConditionalProblem Bool := do
  let value ← c.actual nodes
  let order ← c.compareLiteral value
  return c.operator.holds order

end NodeFit.Conditional

namespace NodeFit

/-- Whether the conditional of a text holds over some nodes; the empty text always
holds. -/
def evaluateConditional (text : String) (nodes : List ClusterNode) :
    Except ConditionalError Bool :=
  if text.isEmpty then .ok true
  else
    match Conditional.parse text >>= fun c => c.evaluate nodes with
    | .ok holds => .ok holds
    | .error problem => .error ⟨text, problem⟩

/-- The value that the conditional of a text is about, when the text is a
conditional and its function is known. -/
def actualOf? (text : String) (nodes : List ClusterNode) : Option AggregateValue :=
  match Conditional.parse text >>= fun c => c.actual nodes with
  | .ok value => some value
  | .error _ => none

end NodeFit
