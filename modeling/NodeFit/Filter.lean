import NodeFit.Node
import NodeFit.Quantity.Parser

/-!
# NodeFit.Filter

Filters pick the nodes that a check is about.

A filter may require labels and may bound properties from below.  All its
clauses have to hold.  The two kinds fail differently: a node that lacks a
required label is an error for the whole list, a node that is below a bound, or
does not report the property at all, is only left out.

Labels are looked at first, in ascending order of their keys, and then bounds, in the order of the
properties (`NodeProperty.all`).  The first clause that does not hold decides, so that a bound
which is no quantity is an error only for nodes that reach all bounds before it.  An empty bound is
no bound.  `matchingNodes` keeps the nodes that meet the filter, in their order.
-/

namespace NodeFit

/-- Labels that a node must carry. -/
structure Selector where
  matchLabel : Dictionary String
deriving DecidableEq, Repr

/-- The clauses that nodes have to meet.  A bound is kept as it was written and
read when a node reaches it; an empty bound is no clause. -/
structure Filter where
  selector : Option Selector
  bounds : PerResource (PerSide (Option String))
deriving DecidableEq, Repr

/-- Why a list of nodes cannot be filtered. -/
inductive FilterError where
  /-- A node does not carry a required label. -/
  | label (key : String)
  /-- The bound of a property is no quantity. -/
  | bound (property : NodeProperty) (error : QuantityError)
deriving DecidableEq, Repr

def FilterError.message : FilterError → String
  | .label key => "failed to check if node matches filter: failed to match label " ++ key
  | .bound property error =>
    "failed to parse " ++ property.name ++ " filter: " ++ error.message

namespace Filter

def empty : Filter := ⟨none, PerResource.ofFn fun _ => ⟨none, none⟩⟩

/-- The bound written for a property. -/
def bound? (filter : Filter) (p : NodeProperty) : Option String :=
  (filter.bounds.get p.resource).get p.side

def withBound (filter : Filter) (p : NodeProperty) (bound : String) : Filter :=
  { filter with
    bounds :=
      filter.bounds.set p.resource ((filter.bounds.get p.resource).set p.side (some bound)) }

def withLabel (filter : Filter) (key value : String) : Filter :=
  let required := (filter.selector.map Selector.matchLabel).getD .empty
  { filter with selector := some ⟨required.insert key value⟩ }

/-- The required labels, ascending by key. -/
def labels (filter : Filter) : List (String × String) :=
  (filter.selector.map fun s => s.matchLabel.toList).getD []

/-- The bounded properties with their bounds, in the order of the properties. -/
def thresholds (filter : Filter) : List (NodeProperty × String) :=
  NodeProperty.all.filterMap fun p =>
    (filter.bound? p).bind fun bound => if bound.isEmpty then none else some (p, bound)

/-! ## Meeting the clauses -/

/-- Whether a node reports at least a bound. -/
def reaches (node : ClusterNode) (p : NodeProperty) (bound : Quantity) : Bool :=
  match node.get? p with
  | none => false
  | some actual => bound.le actual

/-- Goes through bounds until one leaves the node out or cannot be read. -/
def meets (node : ClusterNode) : List (NodeProperty × String) → Except FilterError Bool
  | [] => .ok true
  | (p, written) :: rest =>
    match Quantity.parse written with
    | .error e => .error (.bound p e)
    | .ok bound => if reaches node p bound then meets node rest else .ok false

/-- Whether a node meets a filter: labels first, then bounds. -/
def accepts (filter : Filter) (node : ClusterNode) : Except FilterError Bool :=
  match filter.labels.find? fun label => !node.hasLabel label with
  | some label => .error (.label label.1)
  | none => meets node filter.thresholds

end Filter

/-- Whether a node meets a filter, if there is one. -/
def ClusterNode.passes (node : ClusterNode) (filter : Option Filter) : Except FilterError Bool :=
  match filter with
  | none => .ok true
  | some filter => filter.accepts node

/-- The nodes that meet a filter, in their order; the first node that cannot be
judged decides about all. -/
def matchingNodes (filter : Option Filter) :
    List ClusterNode → Except FilterError (List ClusterNode)
  | [] => .ok []
  | node :: rest => do
    let passes ← node.passes filter
    let rest ← matchingNodes filter rest
    return if passes then node :: rest else rest

end NodeFit
