import NodeFit.Cluster.Payload
import NodeFit.Gate
import NodeFit.Result

/-!
# NodeFit.Analysis

The analysis of one check against collected files.

The list of nodes must have been collected whatever becomes of the check.  Then
the workload that the check depends on selects its criteria or skips it.  Only a
check that goes on has its list of nodes read and filtered; the first outcome that
holds over the remaining nodes makes the result.

The stages are one after the other, and each of them may be the last:

* `Store.read` gives out the list of nodes, or the check cannot be carried out;
* `NodeCheck.resolveGate` chooses the criteria or skips the check;
* `Criteria.judge` reads and filters the nodes and applies the outcomes to them.

An error says at which stage it came up (`AnalyzeError`), and its text is the one that the failed
result of a run carries.
-/

namespace NodeFit

/-- Why a check cannot be carried out. -/
inductive AnalyzeError where
  /-- A file cannot be had. -/
  | fetch (error : FetchError)
  /-- The list of nodes cannot be read. -/
  | nodes (error : Cluster.NodeListError)
  /-- The list of deployments cannot be read. -/
  | deployments
  /-- The nodes cannot be filtered. -/
  | filter (error : FilterError)
  /-- A conditional has no truth value. -/
  | conditional (error : ConditionalError)
deriving DecidableEq, Repr

/-- The sentence that reports the error.  Of a malformed list one phrase stands for all that a
reader of JSON may say about it. -/
def AnalyzeError.message : AnalyzeError → String
  | .fetch error => error.message
  | .nodes error => error.message
  | .deployments =>
    "failed to unmarshal deployment list: the payload is not a JSON list of deployments"
  | .filter error => error.message
  | .conditional error => "failed to parse when: " ++ error.message

def Store.read (store : Store) (key : String) : Except AnalyzeError Bytes :=
  (store.fetch key).mapError .fetch

/-- The deployments collected for a namespace. -/
def Store.deployments (store : Store) (ns : String) :
    Except AnalyzeError (List Cluster.WorkloadRecord) := do
  let payload ← store.read (deploymentsKey ns)
  match Cluster.decodeDeployments? payload ns with
  | some deployments => return deployments
  | none => throw .deployments

/-- Whether a workload is among the deployments collected for its namespace. -/
def Store.hasWorkload (store : Store) (workload : WorkloadRef) : Except AnalyzeError Bool := do
  let deployments ← store.deployments workload.ns
  return deployments.any fun d => d.name == workload.name

/-- The result of criteria over the nodes of a payload. -/
def Criteria.judge (criteria : Criteria) (payload : Bytes) (start : AnalysisResult) :
    Except AnalyzeError AnalysisResult := do
  let nodes ← (Cluster.decodeNodes payload).mapError .nodes
  let matching ← (matchingNodes criteria.filter nodes).mapError .filter
  (applyOutcomes start criteria.outcomes matching).mapError .conditional

/-- The result of a check over collected files. -/
def analyze (check : NodeCheck) (store : Store) : Except AnalyzeError AnalysisResult := do
  let payload ← store.read nodesKey
  let start := AnalysisResult.ofCheckName check.name
  match ← check.resolveGate store.hasWorkload with
  | .skip workload => return start.skip (skipMessage workload)
  | .evaluate criteria => criteria.judge payload start

end NodeFit
