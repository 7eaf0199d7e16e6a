import NodeFit.Event
import NodeFit.Text.Decimal

/-!
# NodeFit.Counters

The numbers that runs keep.

Results are counted by verdict, and beside that skipped results, errors, analyzers
of kinds that are not evaluated, and evaluations.  Numbers only grow.

What is counted is a tick (`Tick`), and the numbers are those of the ticks so far.  They are
shown in the text format of a metrics collector (`Counters.exposition`): for each family lines that
introduce it, and then a line for every number in it.  Of the numbers of results only those above
zero have a line.
-/

namespace NodeFit

/-- Something that is counted. -/
inductive Tick where
  | result (verdict : Option Verdict)
  | skipped
  | error
  | unsupported
  | evaluation
deriving DecidableEq, Repr

/-- The numbers kept so far. -/
structure Counters where
  fail : Nat
  warn : Nat
  pass : Nat
  /-- The number of results without a verdict. -/
  none : Nat
  skipped : Nat
  errors : Nat
  unsupported : Nat
  evaluations : Nat
deriving DecidableEq, Repr

namespace Counters

def zero : Counters := ⟨0, 0, 0, 0, 0, 0, 0, 0⟩

def tick (c : Counters) : Tick → Counters
  | .result (some .fail) => { c with fail := c.fail + 1 }
  | .result (some .warn) => { c with warn := c.warn + 1 }
  | .result (some .pass) => { c with pass := c.pass + 1 }
  | .result .none => { c with none := c.none + 1 }
  | .skipped => { c with skipped := c.skipped + 1 }
  | .error => { c with errors := c.errors + 1 }
  | .unsupported => { c with unsupported := c.unsupported + 1 }
  | .evaluation => { c with evaluations := c.evaluations + 1 }

def tickAll (c : Counters) (ticks : List Tick) : Counters := ticks.foldl tick c

/-- The number of results with a verdict, or without one. -/
def results (c : Counters) : Option Verdict → Nat
  | some .fail => c.fail
  | some .warn => c.warn
  | some .pass => c.pass
  | Option.none => c.none

end Counters

/-- What is counted for a result. -/
def AnalysisResult.ticks (r : AnalysisResult) : List Tick :=
  .result r.verdict :: if r.skipped then [.skipped] else []

/-! ## Exposition -/

namespace Counters

/-- The lines that introduce a family of numbers. -/
def header (name help kind : String) : List String :=
  ["# HELP " ++ name ++ " " ++ help, "# TYPE " ++ name ++ " " ++ kind]

/-- The lines of a family with one number. -/
def family (name help : String) (n : Nat) : List String :=
  header name help "counter" ++ [name ++ " " ++ Text.decimal n]

/-- The upper ends of the classes of durations, in seconds. -/
def durationClasses : List String :=
  ["0.00005", "0.0001", "0.0005", "0.001", "0.0025", "0.005", "0.01", "0.025", "0.05", "0.1",
    "0.5", "+Inf"]

/-- The lines about how long evaluations took.  Durations are not measured, and count as
zero. -/
def durations (n : Nat) : List String :=
  let name := "preflight_analyzer_evaluation_latency_seconds"
  header name "Time spent evaluating a single analyzer" "histogram"
    ++ durationClasses.map (fun upper =>
        name ++ "_bucket\x7ble=\"" ++ upper ++ "\"\x7d " ++ Text.decimal n)
    ++ [name ++ "_sum 0", name ++ "_count " ++ Text.decimal n]

/-- The lines about results.  Only verdicts that have occurred are shown, in the order
of their labels, and nothing is shown before the first result. -/
def resultLines (c : Counters) : List String :=
  let name := "preflight_analyzer_results_total"
  let verdicts : List (Option Verdict) :=
    [some .fail, Option.none, some .pass, some .warn].filter fun v => 0 < c.results v
  if verdicts.isEmpty then []
  else
    header name "Analyzer results by verdict" "counter" ++ verdicts.map fun v =>
      name ++ "\x7bverdict=\"" ++ verdictLabel v ++ "\"\x7d " ++ Text.decimal (c.results v)

/-- The numbers as lines of text, one family after the other. -/
def exposition (c : Counters) : List String :=
  family "preflight_analyzer_errors_total" "Analyzers that aborted with an error" c.errors
    ++ durations c.evaluations ++ c.resultLines
    ++ family "preflight_analyzer_skipped_total" "Analyzers skipped by workload gating" c.skipped
    ++ family "preflight_analyzer_unsupported_total"
        "Analyzer entries of a type this tool does not evaluate" c.unsupported

end Counters
end NodeFit
