import NodeFit.Run
import NodeFit.Store.Memory

/-!
# NodeFit.Session

Sessions: operations on one runner, one store and one set of numbers.

An operation adds a file, analyses an entry, carries out entries, or counts and tells what was made
elsewhere (`SessionStep`).  Its answer and its effects depend on the store alone (`effectsOf`), and
the numbers grow by what the effects count.  So a session is a fold over operations whose state is
the store and the numbers.
-/

namespace NodeFit

/-- An operation of a session. -/
inductive SessionStep where
  /-- Collects a file. -/
  | insert (key : String) (bytes : Bytes)
  /-- Adds a file that shadows collected ones. -/
  | protect (key : String) (bytes : Bytes)
  /-- Analyses an entry without counting or telling anything. -/
  | analyze (entry : AnalyzerEntry)
  | runOne (entry : AnalyzerEntry)
  | run (entries : List AnalyzerEntry)
  /-- Counts a result that was made elsewhere. -/
  | record (result : AnalysisResult)
  /-- Tells the summary of some results. -/
  | summary (results : List AnalysisResult)
  /-- Counts an error. -/
  | error
  /-- Counts an analyzer of a kind that is not evaluated. -/
  | unsupported

/-- What an operation answers. -/
inductive SessionAnswer where
  | done
  | analysis (result : Except AnalyzeError (Option AnalysisResult))
  | result (result : Option AnalysisResult)
  | results (results : List AnalysisResult)

/-- The store and the numbers of a session. -/
structure Session where
  store : MemoryStore
  counters : Counters

namespace Session

/-- A session with nothing collected and nothing counted. -/
def start : Session := ⟨.empty, .zero⟩

/-- The answer and the effects of an operation on a store. -/
def effectsOf (store : MemoryStore) : SessionStep → Trace SessionAnswer
  | .insert _ _ => ⟨[], .done⟩
  | .protect _ _ => ⟨[], .done⟩
  | .analyze entry => ⟨[], .analysis (entry.analyze store.toStore)⟩
  | .runOne entry =>
    let t := NodeFit.runOne store.toStore entry
    ⟨t.effects, .result t.value⟩
  | .run entries =>
    let t := NodeFit.run store.toStore entries
    ⟨t.effects, .results t.value⟩
  | .record result => ⟨result.ticks.map .count, .done⟩
  | .summary results => ⟨closing results, .done⟩
  | .error => ⟨[.count .error], .done⟩
  | .unsupported => ⟨[.count .unsupported], .done⟩

def storeAfter (store : MemoryStore) : SessionStep → MemoryStore
  | .insert key bytes => store.insert key bytes
  | .protect key bytes => store.protect key bytes
  | _ => store

/-- Carries out an operation. -/
def step (s : Session) (operation : SessionStep) : Session × Trace SessionAnswer :=
  let t := effectsOf s.store operation
  (⟨storeAfter s.store operation, s.counters.tickAll (Effect.ticks t.effects)⟩, t)

def steps (s : Session) : List SessionStep → Session × List (Trace SessionAnswer)
  | [] => (s, [])
  | operation :: rest =>
    let (s, t) := s.step operation
    let (s, ts) := s.steps rest
    (s, t :: ts)

end Session
end NodeFit
