import NodeFit.Command.Settings
import NodeFit.Command.Style
import NodeFit.Command.Table
import NodeFit.Document.Encoder
import NodeFit.Event
import NodeFit.Json.Printer
import NodeFit.Node.Json

/-!
# NodeFit.Command.Report

What commands find out, and how it is shown.

For people there are tables and messages, for programs one indented JSON value.  Only
the report of a run with a failed result is one of failure.

A report is data (`Report`), with one case for each command.  Rendering it takes a style and a
format and cannot fail, so that the code of a command is known before anything is shown.
-/

namespace NodeFit

/-- What a command has found out. -/
inductive Report where
  /-- The results of a document, and when they were had. -/
  | run (title bundle time : String) (results : List AnalysisResult)
  /-- The collected nodes. -/
  | nodes (collected : List ClusterNode)
  /-- Whether a conditional holds over some of the nodes. -/
  | eval (conditional : String) (matching total : Nat) (actual : Option String) (holds : Bool)

namespace Report

/-- Whether the report is one of failure. -/
def failed : Report → Bool
  | run _ _ _ results => results.any fun r => r.hasVerdict .fail
  | _ => false

/-! ## For programs -/

def toJson : Report → Json
  | run title bundle time results =>
    .object
      [("name", .text title), ("bundle", .text bundle), ("generatedAt", .text time),
        ("results", .list (results.map AnalysisResult.toJson))]
  | nodes collected => .list (collected.map ClusterNode.toJson)
  | eval conditional matching total actual holds =>
    .object <|
      [("conditional", .text conditional), ("matchingNodes", .int matching),
        ("totalNodes", .int total)]
        ++ Json.optional "actual" .text actual ++ [("result", .bool holds)]

/-! ## For people -/

/-- A number in a message. -/
def number (n : Nat) : String := Text.decimal n

def resultRow (style : Style) (r : AnalysisResult) : List String :=
  [style.verdict r.verdict, r.title, r.message, r.uri.getD ""]

/-- The message that sums up a run.  A run without results is summed up by nothing. -/
def summary (style : Style) (tally : Tally) : List String :=
  if 0 < tally.fail then
    [style.message .warning <|
      number tally.fail ++ " of " ++ number tally.total ++ " checks failed, "
        ++ number tally.warn ++ " warned"]
  else if 0 < tally.total then
    [style.message .success <|
      number tally.total ++ " checks completed, " ++ number tally.warn ++ " warned"]
  else []

/-- A table, or a warning where it would have no rows. -/
def tableOr (style : Style) (warning : String) (t : Table) : List String :=
  if t.rows.isEmpty then [style.message .warning warning] else t.render

def resultLines (style : Style) (results : List AnalysisResult) : List String :=
  tableOr style "No analyzers were evaluated"
      ⟨["Verdict", "Check", "Message", "URI"], results.map (resultRow style)⟩
    ++ summary style (Tally.of results)

def heading (p : NodeProperty) : String :=
  let resource :=
    match p.resource with
    | .cpu => "CPU"
    | .memory => "Mem"
    | .pods => "Pods"
    | .ephemeralStorage => "Storage"
  match p.side with
  | .capacity => resource ++ " Cap"
  | .allocatable => resource ++ " Alloc"

/-- The row of a node, with a dash for an amount that is not reported. -/
def nodeRow (node : ClusterNode) : List String :=
  node.name :: NodeProperty.all.map fun p => (node.get? p).elim "-" Quantity.text

def nodeLines (style : Style) (nodes : List ClusterNode) : List String :=
  tableOr style "No nodes found in bundle"
      ⟨"Name" :: NodeProperty.all.map heading, nodes.map nodeRow⟩
    ++ if nodes.isEmpty then []
      else [style.message .information ("Total: " ++ number nodes.length ++ " nodes")]

/-- The truth of a conditional. -/
def evalLines (style : Style) (conditional : String) (matching total : Nat)
    (actual : Option String) (holds : Bool) : List String :=
  [style.message .information
      (number matching ++ " of " ++ number total ++ " nodes matched the selector")]
    ++ actual.toList.map ("Actual value: " ++ ·)
    ++ [conditional ++ " => " ++ style.truth holds]

/-- The report as lines of text. -/
def lines (style : Style) : Report → List String
  | run _ _ _ results => resultLines style results
  | nodes collected => nodeLines style collected
  | eval conditional matching total actual holds =>
    evalLines style conditional matching total actual holds

def render (style : Style) (format : OutputFormat) (report : Report) : List String :=
  match format with
  | .table => report.lines style
  | .json => [report.toJson.renderIndented]

end Report
end NodeFit
