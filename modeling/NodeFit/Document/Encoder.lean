import NodeFit.Document
import NodeFit.Result

/-!
# NodeFit.Document.Encoder

Writing documents, results and nodes as JSON values.

Fields that hold nothing are left out where reading puts the same nothing back;
names, messages and lists of outcomes are always written.

A document that was read is written as a value from which it can be read again; the entries of
lists of outcomes that were dropped are gone.  Analyzers of other kinds are written back as the
values that they were kept as.
-/

namespace NodeFit

open Json (optional)

def Filter.toJson (filter : Filter) : Json :=
  .object <|
    optional "selector" (fun s : Selector => .object [("matchLabel", .ofTexts s.matchLabel)])
        filter.selector
      ++ NodeProperty.all.flatMap fun p => optional p.name .text (filter.bound? p)

def OutcomeBody.toJson (body : OutcomeBody) : Json :=
  .object <|
    [("when", .text body.condition), ("message", .text body.message)]
      ++ optional "uri" .text body.uri

/-- An outcome as JSON, under the label of its verdict. -/
def Outcome.toJson (o : Outcome) : Json := .object [(o.verdict.label, o.body.toJson)]

def outcomesToJson (outcomes : List Outcome) : Json := .list (outcomes.map Outcome.toJson)

def Criteria.toFields (c : Criteria) : List (String × Json) :=
  optional "filters" Filter.toJson c.filter ++ [("outcomes", outcomesToJson c.outcomes)]

def WorkloadRef.toJson (w : WorkloadRef) : Json :=
  .object [("namespace", .text w.ns), ("name", .text w.name)]

/-- The fields that tie a check to a workload. -/
def Gating.toFields (g : Gating) : List (String × Json) :=
  let criteria := fun c : Criteria => Json.object c.toFields
  optional "deployment" WorkloadRef.toJson g.deployment
    ++ optional "onInstall" criteria g.onInstall
    ++ optional "onUpdate" criteria g.onUpdate

/-- A text field that is left out when it is empty. -/
def filled (name s : String) : List (String × Json) :=
  if s.isEmpty then [] else [(name, .text s)]

def NodeCheck.toJson (check : NodeCheck) : Json :=
  .object <|
    filled "checkName" check.name ++ check.own.toFields ++ check.gating.toFields

def AnalyzerEntry.toJson (entry : AnalyzerEntry) : Json :=
  .object <|
    optional "nodeResources" NodeCheck.toJson entry.nodeResources ++ entry.unsupported.toList

def PreflightDocument.toJson (d : PreflightDocument) : Json :=
  .object <|
    optional "apiVersion" .text d.apiVersion ++ optional "kind" .text d.kind
      ++ [("metadata", .object (optional "name" .text d.name)),
        ("spec", .object [("analyzers", .list (d.analyzers.map AnalyzerEntry.toJson))])]

/-- A result as JSON; that a check was skipped is not told. -/
def AnalysisResult.toJson (r : AnalysisResult) : Json :=
  .object <|
    [("title", .text r.title)] ++ filled "iconKey" r.iconKey ++ filled "iconURI" r.iconURI
      ++ optional "verdict" (fun v : Verdict => .text v.label) r.verdict
      ++ [("message", .text r.message)] ++ optional "URI" .text r.uri

end NodeFit
