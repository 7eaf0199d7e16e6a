import NodeFit.Filter
import NodeFit.Outcome

/-!
# NodeFit.Check

Checks of node resources.

A check has criteria of its own.  It may depend on a workload, and then name
other criteria for the case that the workload is not there yet, and for the case
that it is.

What a check depends on is kept apart from its criteria (`Gating`), since the criteria for the two
cases are of the same kind as its own: a filter and a list of outcomes.  Where no workload is
named, they are never used.
-/

namespace NodeFit

/-- Which nodes a check is about, and what it says about them. -/
structure Criteria where
  filter : Option Filter
  outcomes : List Outcome
deriving DecidableEq, Repr

/-- A deployment in a namespace. -/
structure WorkloadRef where
  ns : String
  name : String
deriving DecidableEq, Repr

/-- The workload a check depends on, and the criteria that its presence selects. -/
structure Gating where
  deployment : Option WorkloadRef
  /-- The criteria for when the workload is missing. -/
  onInstall : Option Criteria
  /-- The criteria for when the workload is there. -/
  onUpdate : Option Criteria
deriving DecidableEq, Repr

/-- A check of node resources. -/
structure NodeCheck where
  /-- The title of the check; empty for the usual one. -/
  name : String
  own : Criteria
  gating : Gating
deriving DecidableEq, Repr

end NodeFit
