import NodeFit.Analysis
import NodeFit.Counters
import NodeFit.Document

/-!
# NodeFit.Run

Runs: all analyzers of a document against the same collected files.

An analysis that fails is reported as a failed result, so that no entry hides
another.  A run lists its results in the order of the entries and ends with a
summary.

The work for an entry is a value (`Work`): effects, looks at the collected files, and a result
at its end.  A run in order does it at once (`Work.run`); a parallel run does it step by step
(`NodeFit.Run.Parallel`), so that both carry out the same work.  Effects are what is counted and
what is told, and are listed in the order in which they take place.
-/

namespace NodeFit

/-- Something that a run does besides computing results. -/
inductive Effect where
  | count (tick : Tick)
  | tell (event : Event)
deriving DecidableEq, Repr

namespace Effect

def tick? : Effect → Option Tick
  | count tick => some tick
  | tell _ => none

def event? : Effect → Option Event
  | count _ => none
  | tell event => some event

def ticks (effects : List Effect) : List Tick := effects.filterMap tick?

def events (effects : List Effect) : List Event := effects.filterMap event?

end Effect

/-- The effects of some steps, and what they result in. -/
structure Trace (α : Type) where
  effects : List Effect
  value : α
deriving Repr

/-- The result of an entry; nothing for one that has no check of node resources. -/
def AnalyzerEntry.analyze (entry : AnalyzerEntry) (store : Store) :
    Except AnalyzeError (Option AnalysisResult) :=
  match entry.nodeResources with
  | none => .ok none
  | some check => (NodeFit.analyze check store).map some

/-- Counts and tells the kinds of analyzer in an entry that are not evaluated. -/
def AnalyzerEntry.skips (entry : AnalyzerEntry) : List Effect :=
  entry.unsupportedKinds.flatMap fun kind =>
    [.count .unsupported, .tell (.analysisSkipped kind)]

/-- Counts and tells a result. -/
def AnalysisResult.report (r : AnalysisResult) : List Effect :=
  r.ticks.map .count ++ [.tell (.ofResult r)]

/-! ## Work -/

/-- What is left to do for an entry, one step after the other. -/
inductive Work where
  /-- Nothing is left; the entry has this result, if it has a check. -/
  | done (result : Option AnalysisResult)
  | act (effect : Effect) (next : Work)
  /-- Looks at the collected files. -/
  | look (next : Store → Work)

namespace Work

/-- Some effects in order, and then other work. -/
def acts (effects : List Effect) (next : Work) : Work := effects.foldr act next

/-- Does all the work at once. -/
def run (store : Store) : Work → Trace (Option AnalysisResult)
  | done result => ⟨[], result⟩
  | act effect next =>
    let t := next.run store
    ⟨effect :: t.effects, t.value⟩
  | look next => (next store).run store

/-- Reports a result. -/
def report (r : AnalysisResult) : Work := acts r.report (done (some r))

end Work

/-- What is left to do for a check once it has been analysed, an error being a failed
result. -/
def NodeCheck.conclude (check : NodeCheck) : Except AnalyzeError AnalysisResult → Work
  | .ok r => .report r
  | .error e =>
    .acts [.count .error, .tell (.analysisFailed check.name e.message)]
      (.report (.failed e.message))

/-- The work for a check. -/
def NodeCheck.work (check : NodeCheck) : Work :=
  .act (.tell (.analysisStarted check.name)) (.look fun store =>
    .act (.count .evaluation) (check.conclude (analyze check store)))

/-- The work for an entry. -/
def AnalyzerEntry.work (entry : AnalyzerEntry) : Work :=
  .acts entry.skips (entry.nodeResources.elim (.done none) NodeCheck.work)

/-! ## Runs -/

/-- Carries out an entry. -/
def runOne (store : Store) (entry : AnalyzerEntry) : Trace (Option AnalysisResult) :=
  entry.work.run store

/-- The effects that close a run. -/
def closing (results : List AnalysisResult) : List Effect := [.tell (.summary results)]

/-- Carries out entries one after the other. -/
def run (store : Store) (entries : List AnalyzerEntry) : Trace (List AnalysisResult) :=
  let traces := entries.map (runOne store)
  let results := traces.filterMap Trace.value
  ⟨traces.flatMap Trace.effects ++ closing results, results⟩

end NodeFit
