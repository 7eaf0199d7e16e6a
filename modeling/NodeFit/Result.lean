import NodeFit.Outcome

/-!
# NodeFit.Result

Results: what is reported for one check.

A result without a verdict is inconclusive: no outcome held.

The title is that of the check, or a usual one, and a check that was skipped says so in front of it.
Skipping comes with a warning.  A check that could not be carried out has a failure as its result,
whose title says so and whose message is the error.
-/

namespace NodeFit

/-- The report of one check. -/
structure AnalysisResult where
  title : String
  iconKey : String
  iconURI : String
  verdict : Option Verdict
  message : String
  uri : Option String
  /-- Whether the check was skipped because of the workload it depends on. -/
  skipped : Bool
deriving DecidableEq, Repr

namespace AnalysisResult

/-- The title of a check without a name. -/
def defaultTitle : String := "Node Resources"

/-- The key of the picture shown beside a check of node resources. -/
def nodeIconKey : String := "kubernetes_node_resources"

/-- The address of the picture shown beside a check of node resources. -/
def nodeIconURI : String :=
  "https://troubleshoot.sh/images/analyzer-icons/node-resources.svg?w=16&h=18"

/-- The report of a check before any outcome is applied. -/
def ofCheckName (name : String) : AnalysisResult :=
  { title := if name.isEmpty then defaultTitle else name
    iconKey := nodeIconKey
    iconURI := nodeIconURI
    verdict := none
    message := ""
    uri := none
    skipped := false }

/-- The report that stands for a check that could not be carried out. -/
def failed (message : String) : AnalysisResult :=
  { title := "Analyzer Failed"
    iconKey := ""
    iconURI := ""
    verdict := some .fail
    message
    uri := none
    skipped := false }

/-- The report with the verdict and the texts of an outcome. -/
def withOutcome (r : AnalysisResult) (o : Outcome) : AnalysisResult :=
  { r with verdict := some o.verdict, message := o.body.message, uri := o.body.uri }

/-- The report of a check that was skipped, with a warning. -/
def skip (r : AnalysisResult) (message : String) : AnalysisResult :=
  { r with
    title := "Skipped: " ++ r.title
    verdict := some .warn
    message
    skipped := true }

def hasVerdict (r : AnalysisResult) (v : Verdict) : Bool := r.verdict == some v

/-- Whether there is no verdict. -/
def isInconclusive (r : AnalysisResult) : Bool := r.verdict.isNone

end AnalysisResult

/-- Applies the first outcome that holds; a report to which none applies stays as it is. -/
def applyOutcomes (r : AnalysisResult) (outcomes : List Outcome) (nodes : List ClusterNode) :
    Except ConditionalError AnalysisResult := do
  let chosen ← selectOutcome nodes outcomes
  return chosen.elim r r.withOutcome

end NodeFit
