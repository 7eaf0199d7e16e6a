import NodeFit.Check

/-!
# NodeFit.Gate

The choice of criteria by the presence of a workload.

A check that depends on a workload uses its update criteria where the workload
exists and its install criteria where it does not.  Without update criteria an
existing workload skips the check; without install criteria a missing one leaves
the check with its own.

Whether the workload is there is asked only if the check depends on one, by a function that the gate
is given (`NodeCheck.resolveGate`).  The decision itself looks at nothing but the answer
(`NodeCheck.decision`).
-/

namespace NodeFit

/-- What becomes of a check. -/
inductive GateDecision where
  /-- It is evaluated by these criteria. -/
  | evaluate (criteria : Criteria)
  /-- It is skipped on account of this workload. -/
  | skip (workload : WorkloadRef)
deriving DecidableEq, Repr

/-- The message of a check skipped on account of a workload. -/
def skipMessage (workload : WorkloadRef) : String :=
  "Test skipped: Deployment " ++ workload.name ++ " found in the cluster, but no specs were "
    ++ "found for updates, under 'onUpdate:' field"

namespace NodeCheck

/-- The decision once the presence of the workload is known. -/
def decision (check : NodeCheck) (workload : WorkloadRef) (present : Bool) : GateDecision :=
  if present then check.gating.onUpdate.elim (.skip workload) .evaluate
  else .evaluate (check.gating.onInstall.getD check.own)

/-- The decision on a check.  Whether the workload exists is asked only of a check
that depends on one, and an error there is the answer. -/
def resolveGate {ε : Type} (check : NodeCheck) (exists? : WorkloadRef → Except ε Bool) :
    Except ε GateDecision :=
  match check.gating.deployment with
  | none => .ok (.evaluate check.own)
  | some workload => (exists? workload).map (check.decision workload)

end NodeCheck
end NodeFit
