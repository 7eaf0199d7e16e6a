import NodeFit.Node
import NodeFit.Quantity.Printer

/-!
# NodeFit.Aggregate

Aggregates: one value for a property over many nodes.

`count` is the number of nodes, which stops at the greatest integer of 64 bits.  The
other functions look only at the nodes that report the property: `min` is the first
least amount, `max` the last greatest, `sum` the running total from zero.  Over no
amount `min` and `max` have no value.

Where amounts are equal the choice between first and last shows in how the value is written: equal
amounts may be of different suffix families.  A sum never leaves the range of amounts but stops at
its ends (`Quantity.add`), so that aggregates of amounts are amounts.  A value is shown by
`AggregateValue.text`, the lack of one by a phrase of its own.
-/

namespace NodeFit

/-- The functions that a conditional can name. -/
inductive AggregateFunction where
  | count
  | min
  | max
  | sum
deriving DecidableEq, Repr

namespace AggregateFunction

def all : List AggregateFunction := [count, min, max, sum]

def name : AggregateFunction → String
  | count => "count"
  | min => "min"
  | max => "max"
  | sum => "sum"

def ofName? (name : String) : Option AggregateFunction := all.find? fun f => f.name == name

end AggregateFunction

/-- The value of an aggregate. -/
inductive AggregateValue where
  /-- A number of nodes. -/
  | count (nodes : Nat)
  /-- An amount. -/
  | quantity (q : Quantity)
  /-- There is no amount to choose from. -/
  | noValue
deriving DecidableEq, Repr

/-- The greatest number of nodes that is told from smaller ones. -/
def AggregateValue.maxCount : Nat := Nat.pow 2 63 - 1

def AggregateValue.text : AggregateValue → String
  | count nodes => Text.decimal nodes
  | quantity q => q.text
  | noValue => "<none>"

namespace Quantity

/-- The first least of some amounts. -/
def least? : List Quantity → Option Quantity
  | [] => none
  | q :: rest => some (rest.foldl (fun best r => if best.le r then best else r) q)

/-- The last greatest of some amounts. -/
def greatest? : List Quantity → Option Quantity
  | [] => none
  | q :: rest => some (rest.foldl (fun best r => if best.le r then r else best) q)

/-- The running total of some amounts. -/
def sum (amounts : List Quantity) : Quantity := amounts.foldl add zero

end Quantity

/-- The amounts that nodes report for the property of a name. -/
def reportedAmounts (property : String) (nodes : List ClusterNode) : List Quantity :=
  nodes.filterMap fun node => node.lookup property

/-- The value of a function over the nodes for the property of a name. -/
def aggregate (function : AggregateFunction) (property : String) (nodes : List ClusterNode) :
    AggregateValue :=
  let amounts := reportedAmounts property nodes
  match function with
  | .count => .count (min nodes.length AggregateValue.maxCount)
  | .min => (Quantity.least? amounts).elim .noValue .quantity
  | .max => (Quantity.greatest? amounts).elim .noValue .quantity
  | .sum => .quantity (Quantity.sum amounts)

end NodeFit
