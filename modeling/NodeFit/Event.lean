import NodeFit.Json
import NodeFit.Result

/-!
# NodeFit.Event

What a run tells while it goes on.

Every event carries the name of the bundle it is about.  Events that report a
failure are warnings, all others are information.

An event has a level, a name and details, from which the log makes its records and a run its
tallies (`Event.level`, `Event.name`, `Event.details`).  Events are about entries that are carried
out: one for each analyzer that is skipped, up to three for a check, and one at the end that
sums all results up (`Event.summary`).
-/

namespace NodeFit

/-- How grave a message is. -/
inductive Level where
  | trace
  | debug
  | info
  | warn
  | error
deriving DecidableEq, Repr

namespace Level

/-- The rank of a level; graver levels rank lower. -/
def rank : Level → Nat
  | error => 1
  | warn => 2
  | info => 3
  | debug => 4
  | trace => 5

def name : Level → String
  | error => "ERROR"
  | warn => "WARN"
  | info => "INFO"
  | debug => "DEBUG"
  | trace => "TRACE"

end Level

/-- The label of a verdict that may be missing. -/
def verdictLabel (v : Option Verdict) : String := v.elim "none" Verdict.label

/-- The numbers of results by verdict. -/
structure Tally where
  total : Nat
  fail : Nat
  warn : Nat
  pass : Nat
deriving DecidableEq, Repr

/-- The number of results with a verdict. -/
def countVerdict (v : Verdict) (results : List AnalysisResult) : Nat :=
  results.countP fun r => r.hasVerdict v

/-- The numbers of some results. -/
def Tally.of (results : List AnalysisResult) : Tally :=
  ⟨results.length, countVerdict .fail results, countVerdict .warn results,
    countVerdict .pass results⟩

/-- Something that happens in a run. -/
inductive Event where
  /-- An analyzer of a kind that is not evaluated was met. -/
  | analysisSkipped (kind : String)
  | analysisStarted (checkName : String)
  | analysisFailed (checkName error : String)
  | analysisCompleted (title : String) (verdict : Option Verdict) (message : String)
  | runCompleted (tally : Tally)
deriving DecidableEq, Repr

namespace Event

/-- The event that reports a result. -/
def ofResult (r : AnalysisResult) : Event := analysisCompleted r.title r.verdict r.message

/-- The event that closes a run. -/
def summary (results : List AnalysisResult) : Event := runCompleted (Tally.of results)

def level : Event → Level
  | analysisFailed _ _ => .warn
  | runCompleted tally => if 0 < tally.fail then .warn else .info
  | _ => .info

/-- The name of the kind of an event. -/
def name : Event → String
  | analysisSkipped _ => "analysis_skipped"
  | analysisStarted _ => "analysis_started"
  | analysisFailed _ _ => "analysis_failed"
  | analysisCompleted _ _ _ => "analysis_completed"
  | runCompleted _ => "run_completed"

/-- The sentence of an event, where it has no other message. -/
def sentence : Event → String
  | analysisSkipped _ => "Skipping unsupported analyzer"
  | analysisStarted _ => "Evaluating analyzer"
  | analysisFailed _ _ => "Analyzer failed"
  | analysisCompleted _ _ message => message
  | runCompleted tally =>
    if 0 < tally.fail then "Preflight run completed with failures" else "Preflight run completed"

/-- What an event tells beyond its name. -/
def details : Event → List (String × Json)
  | analysisSkipped kind => [("analyzer", .text kind)]
  | analysisStarted checkName => [("check_name", .text checkName)]
  | analysisFailed checkName error => [("check_name", .text checkName), ("error", .text error)]
  | analysisCompleted title verdict _ =>
    [("title", .text title), ("verdict", .text (verdictLabel verdict))]
  | runCompleted tally =>
    [("total", .int tally.total), ("fail", .int tally.fail), ("warn", .int tally.warn),
      ("pass", .int tally.pass)]

/-- All that an event about a bundle tells. -/
def fields (e : Event) (bundle : String) : List (String × Json) :=
  [("message", .text e.sentence), ("event", .text e.name), ("bundle", .text bundle)] ++ e.details

end Event
end NodeFit
